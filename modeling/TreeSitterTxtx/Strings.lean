import TreeSitterTxtx.Content

/-!
# String declarations

A quoted string is read in three tokens: the opening quote, lexed in the mode of the state
before it; the content, lexed in the content mode of the state the quote leads to (`67` for
`"`, `71` for `'`); and the closing quote, lexed in the mode of the state after the content
(`6` for `"`, `0` for `'`). `QuoteKind` names these states for each quote and
`QuoteKind.Valid` the entries of the tables a string's run takes. The module lands, in order:

* `tsLex_dquote_open` and `tsLex_squote_open`: in the modes `0` and `2`, after a space, the
  opening quote lexes alone; for `"` this needs that the string is not followed by `"`,
  which would make `"""` of an empty one;
* `quotedString_reaches`: the run over a string from any stack whose top state shifts its
  quote, to the closing quote shifted into state `17`;
* `inputString_accepted`: the documents `input q₁k q₁ = q₂v q₂`, with `"` or `'` for either
  string, are accepted for every key and value content, with the tree whose string
  leaves span exactly the key and the value.
-/

namespace TreeSitterTxtx

/-! ## The states of a quoted string -/

/-- The parse states of a quoted string and the mode of its content. -/
structure QuoteKind where
  /-- The content mode of the string's body, with the quote as its delimiter. -/
  content : ContentMode
  /-- The quote token. -/
  quote : Symbol
  /-- The parse state after the opening quote. -/
  opened : Nat
  /-- The parse state after the content. -/
  read : Nat

/-- `"…"`: the content is lexed in mode `67` in state `135`, the closing quote in mode `6`
in state `148`. -/
def dquoteKind : QuoteKind := ⟨dquoteContent, .anonSymDquote, 135, 148⟩

/-- `'…'`: the content is lexed in mode `71` in state `132`, the closing quote in mode `0`
in state `129`. -/
def squoteKind : QuoteKind := ⟨squoteContent, .anonSymSquote, 132, 129⟩

/-- The entries of the tables a string's run takes after its opening quote. -/
structure QuoteKind.Valid (q : QuoteKind) : Prop where
  content : q.content.Valid
  opened_mode : tsLexModes q.opened = q.content.s0
  s0_ne : q.content.s0 ≠ noLexState
  opened_shift : effectiveAction (tsLanguageActions q.opened q.content.token) = some (.shift q.read)
  read_mode : tsLexModes q.read ≠ noLexState
  close_lex : ∀ p r, tsLex (tsLexModes q.read) p (q.content.d :: r) = some (⟨q.quote, p, p + 1⟩, r)
  close_shift : effectiveAction (tsLanguageActions q.read q.quote) = some (.shift 17)

theorem dquoteKind_valid : dquoteKind.Valid where
  content := dquoteContent_valid
  opened_mode := rfl
  s0_ne := by decide
  opened_shift := by decide
  read_mode := by decide
  close_lex p r := by cases r <;> rfl
  close_shift := by decide

theorem squoteKind_valid : squoteKind.Valid where
  content := squoteContent_valid
  opened_mode := rfl
  s0_ne := by decide
  opened_shift := by decide
  read_mode := by decide
  close_lex p r := by cases r <;> rfl
  close_shift := by decide

/-! ## The opening quote -/

/-- In the modes `0` and `2`, a space is skipped and `"` is read into lex state `66`. -/
theorem dquote_move {m : Nat} (hm : m = 0 ∨ m = 2) :
    tsLexMove m false ' ' = .skip m ∧ tsLexMove m false '"' = .advance 66 ∧ tsLexAccept m = none := by
  rcases hm with rfl | rfl <;> exact ⟨rfl, rfl, rfl⟩

/-- **After a space, `"` lexes alone** in the modes `0` and `2`, unless a second and a third
`"` follow it: lex state `66` accepts `"` and goes on only on `"`, to state `3`, which accepts
nothing and goes on only on `"`. -/
theorem tsLex_dquote_open {m : Nat} (hm : m = 0 ∨ m = 2) (p : Nat) {c r : List Char}
    (hc : dquoteContent.IsContent c) (hr : r.head? ≠ some '"') :
    tsLex m p (' ' :: '"' :: (c ++ '"' :: r)) =
      some (⟨.anonSymDquote, p + 1, p + 1 + 1⟩, c ++ '"' :: r) := by
  obtain ⟨hsp, hq, hacc⟩ := dquote_move hm
  have h66 : ∀ x, x ≠ '"' → tsLexMove 66 false x = .stop := fun x hx => by
    show (if x = '"' then _ else _) = _
    rw [if_neg hx]
  have hstart : tsLex m p (' ' :: '"' :: (c ++ '"' :: r)) =
      tsLexRun 66 (p + 1 + 1) (p + 1) none (c ++ '"' :: r) := by
    simp only [tsLex, tsLexRun, acceptAt, hacc, hsp, hq]
  rw [hstart]
  cases c with
  | nil =>
    -- `""`: state `3` stops on what follows, and the single `"` is taken
    rw [List.nil_append, tsLexRun_cons_advance (show tsLexMove 66 false '"' = .advance 3 from rfl),
      acceptAt_of_accept (show tsLexAccept 66 = some .anonSymDquote from rfl)]
    cases r with
    | nil => rfl
    | cons y r =>
      have hy : y ≠ '"' := fun h => hr (by rw [h]; rfl)
      rw [tsLexRun_cons_stop (show tsLexMove 3 false y = .stop by
        show (if y = '"' then _ else _) = _; rw [if_neg hy]), acceptAt]
      rfl
  | cons x c =>
    rw [List.cons_append, tsLexRun_cons_stop (h66 x (hc x (List.mem_cons_self _ _)).2),
      acceptAt_of_accept (show tsLexAccept 66 = some .anonSymDquote from rfl)]

/-- After a space, `'` lexes alone in the modes `0` and `2`: lex state `70` accepts it and
stops. -/
theorem tsLex_squote_open {m : Nat} (hm : m = 0 ∨ m = 2) (p : Nat) (r : List Char) :
    tsLex m p (' ' :: '\'' :: r) = some (⟨.anonSymSquote, p + 1, p + 1 + 1⟩, r) := by
  rcases hm with rfl | rfl <;> cases r <;> rfl

/-! ## The run over a string -/

/-- **The run over a quoted string.** From a state that shifts the string's quote, lexed at
`a`, the content `c` and the closing quote are lexed and shifted, the closing quote into
state `17`. -/
theorem quotedString_reaches {q : QuoteKind} (hq : q.Valid) {s₀ m p a : Nat} {t₀ : Subtree}
    {σ : List StackEntry} {c r input : List Char} (hc : q.content.IsContent c)
    (hmark : q.content.markerContent c = false) (hmode : tsLexModes s₀ = m)
    (hm : m ≠ noLexState)
    (hopen : tsLex m p input = some (⟨q.quote, a, a + 1⟩, c ++ q.content.d :: r))
    (hshift : effectiveAction (tsLanguageActions s₀ q.quote) = some (.shift q.opened)) :
    Reaches ⟨⟨s₀, t₀⟩ :: σ, p, input, none⟩
      ⟨⟨17, .leaf ⟨q.quote, a + 1 + c.length, a + 1 + c.length + 1⟩ false⟩ ::
        ⟨q.read, .leaf ⟨q.content.token, a + 1, a + 1 + c.length⟩ false⟩ ::
        ⟨q.opened, .leaf ⟨q.quote, a, a + 1⟩ false⟩ :: ⟨s₀, t₀⟩ :: σ,
        a + 1 + c.length + 1, r, none⟩ :=
  (Reaches.lex_shift hmode hm hopen hshift).trans <|
  (Reaches.lex_shift hq.opened_mode hq.s0_ne
    (ContentMode.run_start hq.content hc hmark (a + 1) (a + 1) none r) hq.opened_shift).trans <|
  Reaches.lex_shift rfl hq.read_mode (hq.close_lex _ r) hq.close_shift

/-! ## Input declarations with string values -/

/-- The string node over the content `c` whose opening quote is at `a`. -/
def QuoteKind.tree (q : QuoteKind) (c : List Char) (a : Nat) : Subtree :=
  .node .symString 0 false [.leaf ⟨q.quote, a, a + 1⟩ false,
    .leaf ⟨q.content.token, a + 1, a + 1 + c.length⟩ false,
    .leaf ⟨q.quote, a + 1 + c.length, a + 1 + c.length + 1⟩ false]

/-- The document `input q₁k q₁ = q₂v q₂`. -/
def inputStringDocument (q₁ : QuoteKind) (k : List Char) (q₂ : QuoteKind) (v : List Char) :
    List Char :=
  "input ".toList ++ (q₁.content.d :: (k ++ (q₁.content.d ::
    (' ' :: '=' :: ' ' :: q₂.content.d :: (v ++ [q₂.content.d])))))

/-- The tree of `input q₁k q₁ = q₂v q₂`: the key ends at `s`, the value's opening quote is at
`a` and the input ends at `e`. -/
def inputStringTree (q₁ : QuoteKind) (k : List Char) (q₂ : QuoteKind) (v : List Char) :
    Subtree :=
  let s := 6 + 1 + k.length + 1
  let a := s + 1 + 1 + 1
  let e := a + 1 + v.length + 1
  .node .symRunbook 0 false [.node .auxSymRunbookRepeat1 0 false [.node .symStatement 0 false
    [.node .symInputDeclaration 5 false [.leaf ⟨.anonSymInput, 0, 5⟩ false, q₁.tree k 6,
      .leaf ⟨.anonSymEq, s + 1, s + 1 + 1⟩ false, .node .symExpression 0 false [q₂.tree v a]]]],
    .leaf ⟨.tsBuiltinSymEnd, e, e⟩ true]

theorem QuoteKind.valid_of {q : QuoteKind} (hq : q = dquoteKind ∨ q = squoteKind) : q.Valid := by
  rcases hq with rfl | rfl
  · exact dquoteKind_valid
  · exact squoteKind_valid

/-- The states before a key and before a value, after `input` and after `=`, shift either
quote into its string's first state. -/
theorem QuoteKind.open_shift {q : QuoteKind} (hq : q = dquoteKind ∨ q = squoteKind) :
    ∀ s₀ ∈ [105, 16], effectiveAction (tsLanguageActions s₀ q.quote) = some (.shift q.opened) := by
  rcases hq with rfl | rfl <;> decide

/-- The opening quote of either kind lexes alone after a space in the modes `0` and `2`,
before a content and a closing quote that no `"` follows. -/
theorem QuoteKind.open_lex {q : QuoteKind} (hq : q = dquoteKind ∨ q = squoteKind) {m : Nat}
    (hm : m = 0 ∨ m = 2) (p : Nat) {c r : List Char} (hc : q.content.IsContent c)
    (hr : r.head? ≠ some '"') :
    tsLex m p (' ' :: q.content.d :: (c ++ q.content.d :: r)) =
      some (⟨q.quote, p + 1, p + 1 + 1⟩, c ++ q.content.d :: r) := by
  rcases hq with rfl | rfl
  · exact tsLex_dquote_open hm p hc hr
  · exact tsLex_squote_open hm p _

/-- **Every input declaration with a string key and a string value is accepted**, in either
quote for each: the key and the value are any contents without NUL and their quote that are
not whitespace followed by exactly `#`, `//` or `/*`, and the tree has one string node for
each, whose content leaf spans exactly the key or the value. -/
theorem inputString_accepted {q₁ q₂ : QuoteKind} (h₁ : q₁ = dquoteKind ∨ q₁ = squoteKind)
    (h₂ : q₂ = dquoteKind ∨ q₂ = squoteKind) {k v : List Char} (hk : q₁.content.IsContent k)
    (hkm : q₁.content.markerContent k = false) (hv : q₂.content.IsContent v)
    (hvm : q₂.content.markerContent v = false) :
    Accepts (inputStringDocument q₁ k q₂ v) (inputStringTree q₁ k q₂ v) := by
  have hinput : Reaches (Config.init (inputStringDocument q₁ k q₂ v))
      ⟨[⟨105, .leaf ⟨.anonSymInput, 0, 5⟩ false⟩], 5, ' ' :: q₁.content.d :: (k ++ q₁.content.d ::
        (' ' :: '=' :: ' ' :: q₂.content.d :: (v ++ [q₂.content.d]))), none⟩ :=
    Reaches.lex_shift_init (by rfl) (by rfl)
  exact accepts_of_reaches
    (hinput.trans <|
    -- the key
    (quotedString_reaches (QuoteKind.valid_of h₁) hk hkm (by rfl) (by decide)
      (q₁.open_lex h₁ (.inl rfl) 5 (r := ' ' :: '=' :: ' ' :: q₂.content.d :: (v ++ [q₂.content.d]))
        hk (by simp)) (QuoteKind.open_shift h₁ 105 (by simp))).trans <|
    -- `=`, which ends the key's string
    (Reaches.lex (by rfl) (by decide) (by rfl)).trans <|
    (Reaches.reduce [_, _] (by rfl) (by rfl)).trans <|
    (Reaches.shift (by rfl)).trans <|
    -- the value, then the end of the input
    (quotedString_reaches (QuoteKind.valid_of h₂) hv hvm (by rfl) (by decide)
      (q₂.open_lex h₂ (.inr rfl) _ (r := []) hv (by simp)) (QuoteKind.open_shift h₂ 16 (by simp))).trans <|
    (Reaches.lex (by rfl) (by decide) (by rfl)).trans <|
    (Reaches.reduce [_, _] (by rfl) (by rfl)).trans <|
    -- the gotos are read off the states below, whose trees hold the contents' lengths
    (Reaches.reduce [] (by simp only [topState_cons]; rfl) (by rfl)).trans <|
    (Reaches.reduce [_, _, _] (by simp only [topState_cons]; rfl) (by rfl)).trans <|
    (Reaches.reduce [] (by rfl) (by rfl)).trans <|
    (Reaches.reduce [] (by rfl) (by rfl)).trans <|
    Reaches.reduce [] (by rfl) (by rfl)) (step_accept_top (by rfl) (by rfl))

/-- `input "k" = 'a"b'`: a `"` key and a `'` value that holds a `"`. -/
theorem inputString_accepted_mixed :
    (dquoteKind = dquoteKind ∨ dquoteKind = squoteKind) ∧
      (squoteKind = dquoteKind ∨ squoteKind = squoteKind) ∧
      dquoteKind.content.IsContent ['k'] ∧ dquoteKind.content.markerContent ['k'] = false ∧
      squoteKind.content.IsContent ['a', '"', 'b'] ∧
      squoteKind.content.markerContent ['a', '"', 'b'] = false ∧
      Accepts (inputStringDocument dquoteKind ['k'] squoteKind ['a', '"', 'b'])
        (inputStringTree dquoteKind ['k'] squoteKind ['a', '"', 'b']) :=
  have hk : dquoteKind.content.IsContent ['k'] := by unfold ContentMode.IsContent; decide
  have hv : squoteKind.content.IsContent ['a', '"', 'b'] := by
    unfold ContentMode.IsContent; decide
  ⟨.inl rfl, .inr rfl, hk, rfl, hv, rfl, inputString_accepted (.inl rfl) (.inr rfl) hk rfl hv rfl⟩

end TreeSitterTxtx
