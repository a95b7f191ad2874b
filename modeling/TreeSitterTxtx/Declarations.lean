import TreeSitterTxtx.Strings

/-!
# Runbooks of declarations

A runbook is a sequence of statements under the hidden repetition `runbook_repeat1`. The
driver builds it one statement at a time: a statement is reduced over the state below it,
`1` for the first and `28` after it, and joined to the repetition so far
(`repeat1 → repeat1 repeat1`), so that after each statement the stack is one entry in state
`28` again. The lookahead that ends a statement, the next `input` or the end of the input,
is lexed in mode `46` after the newline, and every entry of the tables the reductions read
is the same for both. The module lands, in order:

* `declaration_reaches`: the run over one `input` declaration with a string key and a string
  value, from any stack in state `1` or `28`, up to its statement;
* `statements_reach`: the run over any number of them, from the repetition of those before,
  by induction on the declarations;
* `declarations_accepted`: every runbook of such declarations, one a line, is accepted, with
  the left-nested repetition of their statements as its tree.
-/

namespace TreeSitterTxtx

/-! ## Declarations -/

/-- An `input` declaration with a string key and a string value, each in either quote, whose
contents the strings' content modes read whole. -/
structure StringDecl where
  keyQuote : QuoteKind
  key : List Char
  valueQuote : QuoteKind
  value : List Char
  keyQuote_ok : keyQuote = dquoteKind ∨ keyQuote = squoteKind
  valueQuote_ok : valueQuote = dquoteKind ∨ valueQuote = squoteKind
  key_content : keyQuote.content.IsContent key
  key_marker : keyQuote.content.markerContent key = false
  value_content : valueQuote.content.IsContent value
  value_marker : valueQuote.content.markerContent value = false

namespace StringDecl

/-- The declaration's text, `input q₁k q₁ = q₂v q₂`. -/
def text (d : StringDecl) : List Char :=
  inputStringDocument d.keyQuote d.key d.valueQuote d.value

/-- What follows the keyword `input` of the declaration, then a newline and `next`. -/
def tail (d : StringDecl) (next : List Char) : List Char :=
  ' ' :: d.keyQuote.content.d :: (d.key ++ d.keyQuote.content.d :: (' ' :: '=' :: ' ' ::
    d.valueQuote.content.d :: (d.value ++ d.valueQuote.content.d :: '\n' :: next)))

/-- Where the declaration read from `o` ends. -/
def stop (d : StringDecl) (o : Nat) : Nat :=
  o + 5 + 1 + 1 + d.key.length + 1 + 1 + 1 + 1 + 1 + d.value.length + 1

/-- The statement node of the declaration read from `o`: the key's opening quote is at `a`,
its closing quote ends at `s`. -/
def statement (d : StringDecl) (o : Nat) : Subtree :=
  let a := o + 5 + 1
  let s := a + 1 + d.key.length + 1
  .node .symStatement 0 false [.node .symInputDeclaration 5 false [.leaf ⟨.anonSymInput, o, o + 5⟩ false,
    d.keyQuote.tree d.key a, .leaf ⟨.anonSymEq, s + 1, s + 1 + 1⟩ false,
    .node .symExpression 0 false [d.valueQuote.tree d.value (s + 1 + 1 + 1)]]]

theorem text_append (d : StringDecl) (next : List Char) :
    d.text ++ '\n' :: next = 'i' :: 'n' :: 'p' :: 'u' :: 't' :: d.tail next := by
  simp [text, tail, inputStringDocument]

theorem stop_eq (d : StringDecl) (o : Nat) : d.stop o = o + d.text.length := by
  simp [stop, text, inputStringDocument]
  omega

end StringDecl

/-- A runbook of declarations, each ended by a newline. -/
def declarationsText : List StringDecl → List Char
  | [] => []
  | d :: ds => d.text ++ '\n' :: declarationsText ds

/-- The repetition `acc` of the statements before, extended by those of `ds`, the first of
them after the newline at `o`. -/
def repeatTree (acc : Subtree) (o : Nat) : List StringDecl → Subtree
  | [] => acc
  | d :: ds => repeatTree (.node .auxSymRunbookRepeat1 0 false
      [acc, .node .auxSymRunbookRepeat1 0 false [d.statement (o + 1)]]) (d.stop (o + 1)) ds

/-- Where the declarations `ds` after the newline at `o` end, each before its newline. -/
def declarationsStop (o : Nat) : List StringDecl → Nat
  | [] => o
  | d :: ds => declarationsStop (d.stop (o + 1)) ds

/-- The tree of the runbook `declarationsText ds`. -/
def declarationsTree : List StringDecl → Subtree
  | [] => .node .symRunbook 0 false [.leaf ⟨.tsBuiltinSymEnd, 0, 0⟩ true]
  | d :: ds =>
    let e := (declarationsText (d :: ds)).length
    .node .symRunbook 0 false [repeatTree (.node .auxSymRunbookRepeat1 0 false [d.statement 0])
      (d.stop 0) ds, .leaf ⟨.tsBuiltinSymEnd, e, e⟩ true]

theorem repeatTree_extra {acc : Subtree} (h : acc.extra = false) (o : Nat)
    (ds : List StringDecl) : (repeatTree acc o ds).extra = false := by
  induction ds generalizing acc o with
  | nil => exact h
  | cons d ds ih => exact ih (by rfl) _

theorem declarationsStop_eq (o : Nat) (ds : List StringDecl) :
    declarationsStop o ds = o + (declarationsText ds).length := by
  induction ds generalizing o with
  | nil => rfl
  | cons d ds ih =>
    rw [declarationsStop, ih, StringDecl.stop_eq, declarationsText, List.length_append,
      List.length_cons]
    omega

/-! ## The lookahead after a declaration -/

/-- Mode `46` reads a declaration's `input`, which the space after it ends. -/
theorem tsLex_input (o : Nat) (d : StringDecl) (next : List Char) :
    tsLex 46 o ('i' :: 'n' :: 'p' :: 'u' :: 't' :: d.tail next) =
      some (⟨.anonSymInput, o, o + 5⟩, d.tail next) :=
  rfl

/-- After a newline, mode `46` reads the next declaration's `input`. -/
theorem tsLex_newline_cons (o : Nat) (d : StringDecl) (ds : List StringDecl) :
    tsLex 46 o ('\n' :: declarationsText (d :: ds)) =
      some (⟨.anonSymInput, o + 1, o + 1 + 5⟩, d.tail (declarationsText ds)) := by
  rw [declarationsText, d.text_append]
  rfl

/-- The token after a declaration's newline is the next `input` or the end of the input. -/
theorem tsLex_newline (o : Nat) (ds : List StringDecl) :
    ∃ X b e r, tsLex 46 o ('\n' :: declarationsText ds) = some (⟨X, b, e⟩, r) ∧
      X ∈ [Symbol.anonSymInput, .tsBuiltinSymEnd] := by
  cases ds with
  | nil => exact ⟨_, _, _, _, rfl, by simp⟩
  | cons d ds => exact ⟨_, _, _, _, tsLex_newline_cons o d ds, by simp⟩

/-! ## The run over a declaration -/

/-- Mode `46` reads `=` between spaces. -/
theorem tsLex_eq (p : Nat) (r : List Char) :
    tsLex 46 p (' ' :: '=' :: ' ' :: r) = some (⟨.anonSymEq, p + 1, p + 1 + 1⟩, ' ' :: r) :=
  rfl

/-- The entries of the tables a statement takes from the state below it, `1` or `28`. -/
theorem statementStart_tables : ∀ s₀ ∈ [1, 28],
    effectiveAction (tsLanguageActions s₀ .anonSymInput) = some (.shift 105) ∧
      tsLanguageNextState s₀ .symInputDeclaration = 51 ∧
      tsLanguageNextState s₀ .symStatement = 48 := by
  decide

/-- The reductions that end a statement, the same on an `input` and on the end of the
input. -/
theorem statementEnd_tables : ∀ X ∈ [Symbol.anonSymInput, .tsBuiltinSymEnd],
    effectiveAction (tsLanguageActions 17 X) = some (.reduce .symString 3 0) ∧
      effectiveAction (tsLanguageActions 32 X) = some (.reduce .symExpression 1 0) ∧
      effectiveAction (tsLanguageActions 46 X) = some (.reduce .symInputDeclaration 4 5) ∧
      effectiveAction (tsLanguageActions 51 X) = some (.reduce .symStatement 1 0) ∧
      effectiveAction (tsLanguageActions 48 X) = some (.reduce .auxSymRunbookRepeat1 1 0) ∧
      effectiveAction (tsLanguageActions 29 X) = some (.reduce .auxSymRunbookRepeat1 2 0) := by
  decide

/-- **The run over a declaration.** From a stack in state `1` or `28` with the declaration's
`input` as lookahead, the key, `=` and the value are read and the declaration is reduced to
its statement, over the token that follows its newline. -/
theorem declaration_reaches (d : StringDecl) {σ : List StackEntry} {p o b e : Nat}
    {input next r : List Char} {X : Symbol} (hσ : topState σ ∈ [1, 28])
    (hX : X ∈ [Symbol.anonSymInput, .tsBuiltinSymEnd])
    (hnext : tsLex 46 (d.stop o) ('\n' :: next) = some (⟨X, b, e⟩, r)) :
    Reaches ⟨σ, p, input, some (⟨.anonSymInput, o, o + 5⟩, d.tail next)⟩
      ⟨⟨48, d.statement o⟩ :: σ, d.stop o, '\n' :: next, some (⟨X, b, e⟩, r)⟩ := by
  obtain ⟨hshift, hdecl, hstmt⟩ := statementStart_tables _ hσ
  obtain ⟨h17, h32, h46, h51, -, -⟩ := statementEnd_tables X hX
  have hq₁ := QuoteKind.valid_of d.keyQuote_ok
  have hq₂ := QuoteKind.valid_of d.valueQuote_ok
  exact (Reaches.single (step_shift (c := ⟨σ, p, input, _⟩) rfl hshift)).trans <|
    -- the key
    (quotedString_reaches hq₁ d.key_content d.key_marker (by rfl) (by decide)
      (d.keyQuote.open_lex d.keyQuote_ok (.inl rfl) (o + 5) d.key_content (by simp))
      (QuoteKind.open_shift d.keyQuote_ok 105 (by simp))).trans <|
    -- `=`, which ends the key's string
    (Reaches.lex (by rfl) (by decide) (tsLex_eq _ _)).trans <|
    (Reaches.reduce_to [_, _] (s := 146) (by rfl) (by rfl) (by simp only [topState_cons]; rfl)).trans <|
    (Reaches.shift (show effectiveAction (tsLanguageActions 146 .anonSymEq) = some (.shift 16)
      from rfl)).trans <|
    -- the value, then the token after the newline
    (quotedString_reaches hq₂ d.value_content d.value_marker (by rfl) (by decide)
      (d.valueQuote.open_lex d.valueQuote_ok (.inr rfl) _ (r := '\n' :: next) d.value_content
        (by simp)) (QuoteKind.open_shift d.valueQuote_ok 16 (by simp))).trans <|
    (Reaches.lex (by rfl) (by decide) hnext).trans <|
    (Reaches.reduce_to [_, _] (s := 32) h17 (by rfl) (by simp only [topState_cons]; rfl)).trans <|
    (Reaches.reduce_to [] (s := 46) h32 (by rfl) (by simp only [topState_cons]; rfl)).trans <|
    (Reaches.reduce_to [_, _, _] h46 (by rfl) hdecl).trans <|
    Reaches.reduce_to [] h51 (by rfl) hstmt

/-! ## Runbooks -/

/-- The configuration after the statements before the newline at `o`: one entry in state
`28` that holds their repetition `R`, and the token after the newline as lookahead. -/
def boundary (R : Subtree) (o : Nat) (ds : List StringDecl) : Config :=
  ⟨[⟨28, R⟩], o, '\n' :: declarationsText ds, tsLex 46 o ('\n' :: declarationsText ds)⟩

theorem boundary_eq {R : Subtree} {o : Nat} {ds : List StringDecl} {la : Lexeme}
    (h : tsLex 46 o ('\n' :: declarationsText ds) = some la) :
    boundary R o ds = ⟨[⟨28, R⟩], o, '\n' :: declarationsText ds, some la⟩ := by
  rw [boundary, h]

/-- **The run over the statements of a runbook.** From the repetition `R` of the statements
before, each declaration of `ds` is read to its statement and joined to the repetition. -/
theorem statements_reach {R : Subtree} (hR : R.extra = false) (o : Nat) (ds : List StringDecl) :
    Reaches (boundary R o ds) (boundary (repeatTree R o ds) (declarationsStop o ds) []) := by
  induction ds generalizing R o with
  | nil => exact .refl _
  | cons d ds ih =>
    obtain ⟨X, b, e, r, hnext, hX⟩ := tsLex_newline (d.stop (o + 1)) ds
    obtain ⟨-, -, -, -, h48, h29⟩ := statementEnd_tables X hX
    rw [boundary_eq (tsLex_newline_cons o d ds)]
    refine ((declaration_reaches d (σ := [⟨28, R⟩]) (by simp [topState_cons]) hX hnext).trans ?_).trans
      (boundary_eq hnext ▸ ih (by rfl) _)
    -- the statement becomes a repetition, joined to the one before
    exact (Reaches.reduce_to [] (s := 29) h48 (by rfl) (by rfl)).trans
      (Reaches.reduce_to [_] (s := 28) h29 (by simp only [List.all_cons, List.all_nil, hR]; rfl) (by rfl))

/-- **Every runbook of string declarations is accepted**, one declaration a line, with the
tree that joins their statements into the left-nested repetition, and the end of the input
after the last newline. -/
theorem declarations_accepted (ds : List StringDecl) :
    Accepts (declarationsText ds) (declarationsTree ds) := by
  cases ds with
  | nil => exact ⟨3, rfl⟩
  | cons d ds =>
    obtain ⟨X, b, e, r, hnext, hX⟩ := tsLex_newline (d.stop 0) ds
    obtain ⟨-, -, -, -, h48, -⟩ := statementEnd_tables X hX
    have hinit : Reaches (Config.init (declarationsText (d :: ds)))
        ⟨[], 0, declarationsText (d :: ds), some (⟨.anonSymInput, 0, 0 + 5⟩, d.tail (declarationsText ds))⟩ :=
      .single (step_lex rfl (show tsLexModes (topState []) ≠ noLexState by decide)
        (by rw [declarationsText, d.text_append]; exact tsLex_input 0 d _))
    -- the first statement, then the others
    have hrun : Reaches (Config.init (declarationsText (d :: ds)))
        (boundary (repeatTree (.node .auxSymRunbookRepeat1 0 false [d.statement 0]) (d.stop 0) ds)
          (declarationsStop (d.stop 0) ds) []) :=
      (hinit.trans ((declaration_reaches d (σ := []) (by decide) hX hnext).trans
        (boundary_eq hnext ▸ Reaches.reduce_to [] (s := 28) h48 (by rfl) (by rfl)))).trans
        (statements_reach (by rfl) _ ds)
    have hE : declarationsStop (d.stop 0) ds + 1 = (declarationsText (d :: ds)).length := by
      rw [declarationsStop_eq, StringDecl.stop_eq, declarationsText, List.length_append,
        List.length_cons]
      omega
    have hx := repeatTree_extra (show (Subtree.node .auxSymRunbookRepeat1 0 false
      [d.statement 0]).extra = false from rfl) (d.stop 0) ds
    simp only [declarationsTree, ← hE]
    -- the runbook, over the end of the input
    exact accepts_of_reaches
      (hrun.trans (Reaches.reduce_to [] (s := 142) (by rfl) (by simp [hx]) (by rfl)))
      (step_accept_top (by rfl) (by rfl))

end TreeSitterTxtx
