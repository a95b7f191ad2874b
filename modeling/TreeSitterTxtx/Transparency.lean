import TreeSitterTxtx.Simulation
import TreeSitterTxtx.Content

/-!
# Comments and whitespace leave a parse as it was

A comment, or whitespace, inserted where the parser is about to lex, in a parse state whose
lex mode skips whitespace, changes nothing but the comment's own node and the positions after
it. A line comment `# c` with its newline takes five steps (`lineComment_steps`), a block
comment `/* b */` seven (`blockComment_steps`), after which the node of the comment is an
extra entry on the stack, in the state it was read in, and the two runs are in `Sim`
(`comment_sim`); whitespace is in `Sim` at once. Hence `lineComment_transparent`,
`blockComment_transparent`, `whitespace_transparent` and, for a comment before the whole
input, `leadingComment_accepts`.
-/

namespace TreeSitterTxtx

/-! ## A line comment -/

/-- An edge leads into a state of the tables. -/
theorem Edge.lt {u v : Nat} {X : Symbol} (h : Edge u X v) : v < 153 := by
  cases hX : X.isCommentStart
  · obtain ⟨g, hg, -⟩ := mem_predsOf (preds_complete h hX)
    by_contra hv
    simp [List.getD_eq_getElem?_getD,
      List.getElem?_eq_none (show tsPreds.length ≤ v by rw [show tsPreds.length = 153 from rfl]; omega)] at hg
  · have := edge_commentStart h hX
    split at this <;> omega

/-- The top state of a stack the invariant holds of is a state of the tables. -/
theorem topState_lt : ∀ {σ : List StackEntry}, StackOk σ → topState σ < 153
  | [], _ => by decide
  | e :: σ, ⟨hσ, he⟩ => by
    unfold EntryOk at he
    split at he
    · rw [topState, he]; exact topState_lt hσ
    · exact he.lt

/-- In the modes that skip whitespace, `#` leads to lex state `141`, which accepts `#` and
stops. -/
theorem skipState_pound : ∀ m ∈ [0, 1, 2, 6, 46], tsLexMove m false '#' = .advance 141 := by
  decide

/-- In a mode that skips whitespace, `#` lexes alone. -/
theorem tsLex_pound {m : Nat} (hm : isSkipState m = true) (pos : Nat) (y : Char) (r : List Char) :
    tsLex m pos ('#' :: y :: r) = some (⟨.anonSymPound, pos, pos + 1⟩, y :: r) := by
  have hacc := (skipState_skips m (isSkipState_mem hm)).1
  simp [tsLex, tsLexRun, acceptAt, hacc, skipState_pound m (isSkipState_mem hm),
    show tsLexMove 141 false y = .stop from rfl, show tsLexAccept 141 = some .anonSymPound from rfl]

set_option maxRecDepth 8000 in
/-- In every parse state of a mode that skips whitespace, the comment markers have the
entries of the extras, `ACTIONS(3)` for `#` and `ACTIONS(5)` for `/*` and `//`, and the goto
of the comment is the state itself. -/
theorem commentStart_lookup : ∀ u < 153, isSkipState (tsLexModes u) = true →
    tsLanguageLookup u .anonSymPound = 3 ∧ tsLanguageLookup u .anonSymSlashStar = 5 ∧
      tsLanguageLookup u .anonSymSlashSlash = 5 ∧ tsLanguageLookup u .symComment = u := by
  decide

/-- In every parse state of a mode that skips whitespace, the comment markers start a
comment: `#` is shifted into state `143`, `/*` and `//` into `145`, and the goto of the comment
is the state itself. -/
theorem commentStart_action {u : Nat} (hu : u < 153) (hm : isSkipState (tsLexModes u) = true) :
    effectiveAction (tsLanguageActions u .anonSymPound) = some (.shift 143) ∧
      effectiveAction (tsLanguageActions u .anonSymSlashStar) = some (.shift 145) ∧
      effectiveAction (tsLanguageActions u .anonSymSlashSlash) = some (.shift 145) ∧
      tsLanguageNextState u .symComment = u := by
  obtain ⟨h1, h2, h3, h4⟩ := commentStart_lookup u hu hm
  simp only [tsLanguageActions, tsLanguageNextState, h1, h2, h3]
  exact ⟨rfl, rfl, rfl, h4⟩

/-- **A line comment takes five steps**: from a state of a mode that skips whitespace, the
driver lexes `#` and shifts it into state `143`, lexes the content in mode `146` and shifts it
into state `152`, whose lex mode is `(TSStateId)(-1)`, and there reduces the two into an
extra `comment` node in the state it started from. The newline is left to skip. -/
theorem lineComment_steps {σ : List StackEntry} {pos : Nat} {cm rest : List Char}
    (hσ : StackOk σ) (hm : isSkipState (tsLexModes (topState σ)) = true)
    (hcm : lineCommentContent.IsContent cm) (hmark : lineCommentContent.markerContent cm = false)
    (n : Nat) :
    run (n + 5) ⟨σ, pos, '#' :: cm ++ '\n' :: rest, none⟩ =
      run n ⟨⟨topState σ, .node .symComment 0 true [.leaf ⟨.anonSymPound, pos, pos + 1⟩ false,
        .leaf ⟨.auxSymCommentToken1, pos + 1, pos + 1 + cm.length⟩ false]⟩ :: σ,
        pos + 1 + cm.length, '\n' :: rest, none⟩ := by
  obtain ⟨hshift, -, -, hgoto⟩ := commentStart_action (topState_lt hσ) hm
  have hlex : tsLexModes (topState σ) ≠ noLexState := by
    intro h; rw [h] at hm; exact absurd hm (by decide)
  obtain ⟨y, r, hyr⟩ : ∃ y r, cm ++ '\n' :: rest = y :: r := by cases cm <;> simp
  -- `#`, then the content up to the newline, then the end of the comment
  have h1 : step ⟨σ, pos, '#' :: cm ++ '\n' :: rest, none⟩ = .next ⟨σ, pos, '#' :: cm ++ '\n' :: rest,
      some (⟨.anonSymPound, pos, pos + 1⟩, cm ++ '\n' :: rest)⟩ :=
    TreeSitterTxtx.step_lex rfl hlex (by rw [List.cons_append, hyr]; exact tsLex_pound hm pos y r)
  have h2 : step ⟨σ, pos, '#' :: cm ++ '\n' :: rest,
      some (⟨.anonSymPound, pos, pos + 1⟩, cm ++ '\n' :: rest)⟩ =
      .next ⟨⟨143, .leaf ⟨.anonSymPound, pos, pos + 1⟩ false⟩ :: σ, pos + 1, cm ++ '\n' :: rest, none⟩ :=
    step_shift rfl hshift
  have h3 : step ⟨⟨143, .leaf ⟨.anonSymPound, pos, pos + 1⟩ false⟩ :: σ, pos + 1, cm ++ '\n' :: rest,
      none⟩ = .next ⟨⟨143, .leaf ⟨.anonSymPound, pos, pos + 1⟩ false⟩ :: σ, pos + 1, cm ++ '\n' :: rest,
      some (⟨.auxSymCommentToken1, pos + 1, pos + 1 + cm.length⟩, '\n' :: rest)⟩ :=
    TreeSitterTxtx.step_lex rfl (show tsLexModes 143 ≠ noLexState by decide)
      (ContentMode.run_start lineCommentContent_valid hcm hmark (pos + 1) (pos + 1) none rest)
  have h4 : step ⟨⟨143, .leaf ⟨.anonSymPound, pos, pos + 1⟩ false⟩ :: σ, pos + 1, cm ++ '\n' :: rest,
      some (⟨.auxSymCommentToken1, pos + 1, pos + 1 + cm.length⟩, '\n' :: rest)⟩ =
      .next ⟨⟨152, .leaf ⟨.auxSymCommentToken1, pos + 1, pos + 1 + cm.length⟩ false⟩ ::
        ⟨143, .leaf ⟨.anonSymPound, pos, pos + 1⟩ false⟩ :: σ, pos + 1 + cm.length, '\n' :: rest, none⟩ :=
    step_shift rfl
      (show effectiveAction (tsLanguageActions 143 .auxSymCommentToken1) = some (.shift 152) by decide)
  have h5 : step ⟨⟨152, .leaf ⟨.auxSymCommentToken1, pos + 1, pos + 1 + cm.length⟩ false⟩ ::
        ⟨143, .leaf ⟨.anonSymPound, pos, pos + 1⟩ false⟩ :: σ, pos + 1 + cm.length, '\n' :: rest, none⟩ =
      .next ⟨⟨topState σ, .node .symComment 0 true [.leaf ⟨.anonSymPound, pos, pos + 1⟩ false,
        .leaf ⟨.auxSymCommentToken1, pos + 1, pos + 1 + cm.length⟩ false]⟩ :: σ,
        pos + 1 + cm.length, '\n' :: rest, none⟩ :=
    step_endOfExtra rfl (show tsLexModes 152 = noLexState from rfl)
      (show effectiveAction (tsLanguageActions 152 .tsBuiltinSymEnd) =
        some (.reduce .symComment 2 0) by decide)
      (by simp [reduce, popCount, Subtree.extra, splitTrailingExtras, hgoto])
  rw [run_succ_of_next h1, run_succ_of_next h2, run_succ_of_next h3, run_succ_of_next h4,
    run_succ_of_next h5]

/-! ## A block comment -/

/-- Lex states `9`, `142` and `150`, inside the body of a block comment: `*` leads to `159`,
any other character but NUL to `9`. -/
theorem move_bodyInner {s : Nat} (hs : s = 9 ∨ s = 142 ∨ s = 150) (x : Char) :
    tsLexMove s false x =
      if x = '*' then .advance 159 else if x ≠ '\x00' then .advance 9 else .stop := by
  rcases hs with rfl | rfl | rfl <;> rfl

/-- Lex states `155` and `159`, after a `*` of a body: `*` stays in `159`, `/` and NUL stop,
any other character leads to `9`. -/
theorem move_bodyStar {s : Nat} (hs : s = 155 ∨ s = 159) (x : Char) :
    tsLexMove s false x =
      if x = '*' then .advance 159 else if x ≠ '\x00' ∧ x ≠ '/' then .advance 9 else .stop := by
  rcases hs with rfl | rfl <;> rfl

/-- The start state of lex mode `7`, the body of a block comment. -/
theorem move_7 (x : Char) : tsLexMove 7 false x =
    if x = '#' then .advance 142 else if x = '*' then .advance 159 else if x = '/' then .advance 10
    else if x = '\t' ∨ x = '\n' ∨ x = '\r' ∨ x = ' ' then .advance 7
    else if x ≠ '\x00' then .advance 9 else .stop := rfl

/-- Lex state `10`, after a body's first `/`. -/
theorem move_10 (x : Char) : tsLexMove 10 false x =
    if x = '*' then .advance 155 else if x = '/' then .advance 150
    else if x ≠ '\x00' then .advance 9 else .stop := rfl

/-- The body of a block comment, between `/*` (or `//`) and `*/`, that lex mode `7` reads as
one `comment` token together with the closing `*`: no NUL, no `*/`, and not whitespace
followed by exactly `/`, which would make `/*` of the closing `*`. -/
def IsBlockBody (b : List Char) : Prop :=
  '\x00' ∉ b ∧ ¬ ['*', '/'] <:+: b ∧ b.dropWhile isSkipSpace ≠ ['/']

theorem star_move {s : Nat} (hs : (s = 9 ∨ s = 142 ∨ s = 150) ∨ s = 155 ∨ s = 159) :
    tsLexMove s false '*' = .advance 159 := by
  rcases hs with hs | hs
  · rw [move_bodyInner hs, if_pos rfl]
  · rw [move_bodyStar hs, if_pos rfl]

/-- The closing `*/` of a body, read from a state after `*`: the token ends before `/`. -/
theorem tsLexRun_closing {pos start : Nat} {acc : Option Lexeme} {rest : List Char} :
    tsLexRun 159 pos start acc ('/' :: rest) =
      some (⟨.auxSymCommentToken2, start, pos⟩, '/' :: rest) := by
  rw [tsLexRun_cons_stop (by rw [move_bodyStar (.inr rfl)]; simp),
    acceptAt_of_accept (show tsLexAccept 159 = some .auxSymCommentToken2 from rfl)]

/-- A body without NUL and `*/` goes on without them. -/
theorem noClose_tail {x : Char} {w : List Char} (h0 : '\x00' ∉ x :: w)
    (hinf : ¬ ['*', '/'] <:+: x :: w) : x ≠ '\x00' ∧ '\x00' ∉ w ∧ ¬ ['*', '/'] <:+: w :=
  ⟨fun h => h0 (h ▸ List.mem_cons_self _ _), fun h => h0 (List.mem_cons_of_mem _ h),
    fun h => hinf (h.trans (List.suffix_cons _ _).isInfix)⟩

/-- In a body without `*/`, no `/` follows a `*`. -/
theorem head_ne_slash {l w : List Char} (h : ¬ ['*', '/'] <:+: l ++ '*' :: w) :
    w.head? ≠ some '/' := by
  intro hw
  obtain ⟨w', rfl⟩ : ∃ w', w = '/' :: w' := by
    cases w with
    | nil => cases hw
    | cons y w' => cases hw; exact ⟨w', rfl⟩
  exact h ⟨l, w', by simp⟩

/-- **From inside a body, the lexer reads the rest of the body and the closing `*` as one
`comment` token**, and stops at the `/`, provided the rest has no NUL and no `*/`, and does
not start with `/` right after a `*`. -/
theorem tsLexRun_body : ∀ (w : List Char) {s : Nat} (pos start : Nat) (acc : Option Lexeme)
    (rest : List Char), (s = 9 ∨ s = 142 ∨ s = 150) ∨ ((s = 155 ∨ s = 159) ∧ w.head? ≠ some '/') →
    '\x00' ∉ w → ¬ ['*', '/'] <:+: w →
    tsLexRun s pos start acc (w ++ '*' :: '/' :: rest) =
      some (⟨.auxSymCommentToken2, start, pos + w.length + 1⟩, '/' :: rest)
  | [], s, pos, start, acc, rest, hs, _, _ => by
    rw [List.nil_append, tsLexRun_cons_advance (star_move (hs.imp_right (·.1))), tsLexRun_closing]
    rfl
  | x :: w, s, pos, start, acc, rest, hs, h0, hinf => by
    obtain ⟨hx0, h0', hinf'⟩ := noClose_tail h0 hinf
    have hlen : pos + 1 + w.length + 1 = pos + (x :: w).length + 1 := by simp; omega
    by_cases hstar : x = '*'
    · -- a `*`: the next character is no `/`
      subst hstar
      rw [List.cons_append, tsLexRun_cons_advance (star_move (hs.imp_right (·.1))),
        tsLexRun_body w _ _ _ _ (.inr ⟨.inr rfl, head_ne_slash (l := []) hinf⟩) h0' hinf', hlen]
    · -- any other character leads to `9`
      have hmove : tsLexMove s false x = .advance 9 := by
        rcases hs with hs | ⟨hs, hh⟩
        · rw [move_bodyInner hs, if_neg hstar, if_pos hx0]
        · rw [move_bodyStar hs, if_neg hstar, if_pos ⟨hx0, fun h => hh (by simp [h])⟩]
      rw [List.cons_append, tsLexRun_cons_advance hmove,
        tsLexRun_body w _ _ _ _ (.inl (.inl rfl)) h0' hinf', hlen]

/-- **Lex mode `7` reads a block comment's body and the closing `*` as one `comment` token.** -/
theorem tsLexRun_blockBody : ∀ (b : List Char) (pos start : Nat) (acc : Option Lexeme)
    (rest : List Char), IsBlockBody b →
    tsLexRun 7 pos start acc (b ++ '*' :: '/' :: rest) =
      some (⟨.auxSymCommentToken2, start, pos + b.length + 1⟩, '/' :: rest)
  | [], pos, start, acc, rest, _ => by
    rw [List.nil_append, tsLexRun_cons_advance (by rw [move_7]; rfl), tsLexRun_closing]
    rfl
  | x :: b, pos, start, acc, rest, ⟨h0, hinf, hslash⟩ => by
    obtain ⟨hx0, h0', hinf'⟩ := noClose_tail h0 hinf
    have hlen : pos + 1 + b.length + 1 = pos + (x :: b).length + 1 := by simp; omega
    -- the run goes on inside the body, from the state `x` leads to
    have inner : ∀ {s : Nat}, (s = 9 ∨ s = 142 ∨ s = 150) ∨ ((s = 155 ∨ s = 159) ∧
        b.head? ≠ some '/') → tsLexMove 7 false x = .advance s →
        tsLexRun 7 pos start acc ((x :: b) ++ '*' :: '/' :: rest) =
          some (⟨.auxSymCommentToken2, start, pos + (x :: b).length + 1⟩, '/' :: rest) := by
      intro s hs hmove
      rw [List.cons_append, tsLexRun_cons_advance hmove, tsLexRun_body b _ _ _ _ hs h0' hinf', hlen]
    rw [move_7] at inner
    by_cases hp : x = '#'
    · exact inner (.inl (.inr (.inl rfl))) (by rw [if_pos hp])
    by_cases hstar : x = '*'
    · -- a `*` first: the next character is no `/`
      subst hstar
      exact inner (.inr ⟨.inr rfl, head_ne_slash (l := []) hinf⟩) rfl
    by_cases hsl : x = '/'
    · -- a `/` first, then a character: `*` leads to `155`, `/` to `150`, any other to `9`
      subst hsl
      obtain ⟨y, b', rfl⟩ : ∃ y b', b = y :: b' := by
        cases b with
        | nil => exact absurd rfl hslash
        | cons y b' => exact ⟨y, b', rfl⟩
      obtain ⟨hy0, h0'', hinf''⟩ := noClose_tail h0' hinf'
      have hlen' : pos + 1 + 1 + b'.length + 1 = pos + ('/' :: y :: b').length + 1 := by simp; omega
      obtain ⟨t, ht, hmove⟩ : ∃ t, ((t = 9 ∨ t = 142 ∨ t = 150) ∨ ((t = 155 ∨ t = 159) ∧
          b'.head? ≠ some '/')) ∧ tsLexMove 10 false y = .advance t := by
        rw [move_10]
        by_cases h1 : y = '*'
        · subst h1
          exact ⟨155, .inr ⟨.inl rfl, head_ne_slash (l := ['/']) hinf⟩, rfl⟩
        by_cases h2 : y = '/'
        · exact ⟨150, .inl (.inr (.inr rfl)), by rw [if_neg h1, if_pos h2]⟩
        · exact ⟨9, .inl (.inl rfl), by rw [if_neg h1, if_neg h2, if_pos hy0]⟩
      rw [List.cons_append, tsLexRun_cons_advance (by rw [move_7]; rfl), List.cons_append,
        tsLexRun_cons_advance hmove, tsLexRun_body b' _ _ _ _ ht h0'' hinf'', hlen']
    by_cases hws : x = '\t' ∨ x = '\n' ∨ x = '\r' ∨ x = ' '
    · -- whitespace first: lex state `7` loops on it
      have hb : IsBlockBody b := ⟨h0', hinf', by
        rwa [List.dropWhile_cons, if_pos (by simpa [isSkipSpace] using hws)] at hslash⟩
      rw [List.cons_append, tsLexRun_cons_advance (by rw [move_7, if_neg hp, if_neg hstar,
        if_neg hsl, if_pos hws]), tsLexRun_blockBody b _ _ _ _ hb, hlen]
    · exact inner (.inl (.inl rfl)) (by rw [if_neg hp, if_neg hstar, if_neg hsl, if_neg hws, if_pos hx0])

/-- In the modes that skip whitespace, `/` leads to lex state `94` or `8`. -/
theorem skipState_slash : ∀ m ∈ [0, 1, 2, 6, 46],
    tsLexMove m false '/' = .advance 94 ∨ tsLexMove m false '/' = .advance 8 := by
  decide

/-- The symbol of a block comment's opener `/o`: `/*` or `//`. -/
def openerSymbol (o : Char) : Symbol := if o = '*' then .anonSymSlashStar else .anonSymSlashSlash

/-- In a mode that skips whitespace, `/*` and `//` lex alone: lex states `154` and `149`
accept them and stop. -/
theorem tsLex_opener {m : Nat} (hm : isSkipState m = true) (pos : Nat) {o : Char}
    (ho : o = '*' ∨ o = '/') (r : List Char) :
    tsLex m pos ('/' :: o :: r) = some (⟨openerSymbol o, pos, pos + 2⟩, r) := by
  have hacc := (skipState_skips m (isSkipState_mem hm)).1
  have h154 : ∀ e c, tsLexMove 154 e c = .stop := fun _ _ => rfl
  have h149 : ∀ e c, tsLexMove 149 e c = .stop := fun _ _ => rfl
  rcases ho with rfl | rfl <;> rcases skipState_slash m (isSkipState_mem hm) with h | h <;>
    cases r <;> simp [tsLex, tsLexRun, acceptAt, hacc, h, h154, h149, openerSymbol,
      show tsLexMove 94 false '*' = .advance 154 from rfl,
      show tsLexMove 94 false '/' = .advance 149 from rfl,
      show tsLexMove 8 false '*' = .advance 154 from rfl,
      show tsLexMove 8 false '/' = .advance 149 from rfl,
      show tsLexAccept 154 = some .anonSymSlashStar from rfl,
      show tsLexAccept 149 = some .anonSymSlashSlash from rfl]

/-- The closing `/` of a block comment, in lex mode `0`, lexes alone when no `*` or `/`
follows it. -/
theorem tsLex_closingSlash (pos : Nat) {r : List Char}
    (hr : r.head? ≠ some '*' ∧ r.head? ≠ some '/') :
    tsLex 0 pos ('/' :: r) = some (⟨.anonSymSlash, pos, pos + 1⟩, r) := by
  have h94 : ∀ e c, c ≠ '*' → c ≠ '/' → tsLexMove 94 e c = .stop := by
    intro e c h1 h2
    show (if c = '*' then _ else if c = '/' then _ else _) = _
    rw [if_neg h1, if_neg h2]
  cases r with
  | nil => simp [tsLex, tsLexRun, acceptAt, show tsLexMove 0 false '/' = .advance 94 from rfl,
      h94 true '\x00' (by decide) (by decide), show tsLexAccept 0 = none from rfl,
      show tsLexAccept 94 = some .anonSymSlash from rfl]
  | cons y r =>
    have hy : y ≠ '*' ∧ y ≠ '/' := ⟨fun h => hr.1 (by simp [h]), fun h => hr.2 (by simp [h])⟩
    simp [tsLex, tsLexRun, acceptAt, show tsLexMove 0 false '/' = .advance 94 from rfl,
      h94 false y hy.1 hy.2, show tsLexAccept 0 = none from rfl,
      show tsLexAccept 94 = some .anonSymSlash from rfl]

/-- **A block comment takes seven steps**: from a state of a mode that skips whitespace, the
driver lexes `/*` (or `//`) and shifts it into state `145`, lexes the body and the closing
`*` in mode `7` and shifts them into state `139`, lexes the `/` in mode `0` and shifts it
into state `151`, whose lex mode is `(TSStateId)(-1)`, and there reduces the three into an
extra `comment` node in the state it started from. -/
theorem blockComment_steps {σ : List StackEntry} {pos : Nat} {o : Char} {b rest : List Char}
    (hσ : StackOk σ) (hm : isSkipState (tsLexModes (topState σ)) = true) (ho : o = '*' ∨ o = '/')
    (hb : IsBlockBody b) (hr : rest.head? ≠ some '*' ∧ rest.head? ≠ some '/') (n : Nat) :
    run (n + 7) ⟨σ, pos, '/' :: o :: (b ++ '*' :: '/' :: rest), none⟩ =
      run n ⟨⟨topState σ, .node .symComment 0 true [.leaf ⟨openerSymbol o, pos, pos + 2⟩ false,
        .leaf ⟨.auxSymCommentToken2, pos + 2, pos + 2 + b.length + 1⟩ false,
        .leaf ⟨.anonSymSlash, pos + 2 + b.length + 1, pos + 2 + b.length + 1 + 1⟩ false]⟩ :: σ,
        pos + 2 + b.length + 1 + 1, rest, none⟩ := by
  obtain ⟨-, hstar, hslash, hgoto⟩ := commentStart_action (topState_lt hσ) hm
  have hshift : effectiveAction (tsLanguageActions (topState σ) (openerSymbol o)) =
      some (.shift 145) := by
    unfold openerSymbol; split
    exacts [hstar, hslash]
  have hlex : tsLexModes (topState σ) ≠ noLexState := by
    intro h; rw [h] at hm; exact absurd hm (by decide)
  -- the opener, then the body up to the closing `*`, then the `/`, then the end of the comment
  have h1 : step ⟨σ, pos, '/' :: o :: (b ++ '*' :: '/' :: rest), none⟩ =
      .next ⟨σ, pos, '/' :: o :: (b ++ '*' :: '/' :: rest),
        some (⟨openerSymbol o, pos, pos + 2⟩, b ++ '*' :: '/' :: rest)⟩ :=
    TreeSitterTxtx.step_lex rfl hlex (tsLex_opener hm pos ho _)
  have h2 : step ⟨σ, pos, '/' :: o :: (b ++ '*' :: '/' :: rest),
      some (⟨openerSymbol o, pos, pos + 2⟩, b ++ '*' :: '/' :: rest)⟩ =
      .next ⟨⟨145, .leaf ⟨openerSymbol o, pos, pos + 2⟩ false⟩ :: σ, pos + 2,
        b ++ '*' :: '/' :: rest, none⟩ :=
    step_shift rfl hshift
  have h3 : step ⟨⟨145, .leaf ⟨openerSymbol o, pos, pos + 2⟩ false⟩ :: σ, pos + 2,
        b ++ '*' :: '/' :: rest, none⟩ =
      .next ⟨⟨145, .leaf ⟨openerSymbol o, pos, pos + 2⟩ false⟩ :: σ, pos + 2,
        b ++ '*' :: '/' :: rest,
        some (⟨.auxSymCommentToken2, pos + 2, pos + 2 + b.length + 1⟩, '/' :: rest)⟩ :=
    TreeSitterTxtx.step_lex rfl (show tsLexModes 145 ≠ noLexState by decide)
      (tsLexRun_blockBody b (pos + 2) (pos + 2) none rest hb)
  have h4 : step ⟨⟨145, .leaf ⟨openerSymbol o, pos, pos + 2⟩ false⟩ :: σ, pos + 2,
        b ++ '*' :: '/' :: rest,
        some (⟨.auxSymCommentToken2, pos + 2, pos + 2 + b.length + 1⟩, '/' :: rest)⟩ =
      .next ⟨⟨139, .leaf ⟨.auxSymCommentToken2, pos + 2, pos + 2 + b.length + 1⟩ false⟩ ::
        ⟨145, .leaf ⟨openerSymbol o, pos, pos + 2⟩ false⟩ :: σ, pos + 2 + b.length + 1,
        '/' :: rest, none⟩ :=
    step_shift rfl
      (show effectiveAction (tsLanguageActions 145 .auxSymCommentToken2) = some (.shift 139) by decide)
  have h5 : step ⟨⟨139, .leaf ⟨.auxSymCommentToken2, pos + 2, pos + 2 + b.length + 1⟩ false⟩ ::
        ⟨145, .leaf ⟨openerSymbol o, pos, pos + 2⟩ false⟩ :: σ, pos + 2 + b.length + 1,
        '/' :: rest, none⟩ =
      .next ⟨⟨139, .leaf ⟨.auxSymCommentToken2, pos + 2, pos + 2 + b.length + 1⟩ false⟩ ::
        ⟨145, .leaf ⟨openerSymbol o, pos, pos + 2⟩ false⟩ :: σ, pos + 2 + b.length + 1,
        '/' :: rest,
        some (⟨.anonSymSlash, pos + 2 + b.length + 1, pos + 2 + b.length + 1 + 1⟩, rest)⟩ :=
    TreeSitterTxtx.step_lex rfl (show tsLexModes 139 ≠ noLexState by decide)
      (tsLex_closingSlash _ hr)
  have h6 : step ⟨⟨139, .leaf ⟨.auxSymCommentToken2, pos + 2, pos + 2 + b.length + 1⟩ false⟩ ::
        ⟨145, .leaf ⟨openerSymbol o, pos, pos + 2⟩ false⟩ :: σ, pos + 2 + b.length + 1,
        '/' :: rest,
        some (⟨.anonSymSlash, pos + 2 + b.length + 1, pos + 2 + b.length + 1 + 1⟩, rest)⟩ =
      .next ⟨⟨151, .leaf ⟨.anonSymSlash, pos + 2 + b.length + 1, pos + 2 + b.length + 1 + 1⟩ false⟩ ::
        ⟨139, .leaf ⟨.auxSymCommentToken2, pos + 2, pos + 2 + b.length + 1⟩ false⟩ ::
        ⟨145, .leaf ⟨openerSymbol o, pos, pos + 2⟩ false⟩ :: σ, pos + 2 + b.length + 1 + 1,
        rest, none⟩ :=
    step_shift rfl
      (show effectiveAction (tsLanguageActions 139 .anonSymSlash) = some (.shift 151) by decide)
  have h7 : step ⟨⟨151, .leaf ⟨.anonSymSlash, pos + 2 + b.length + 1, pos + 2 + b.length + 1 + 1⟩ false⟩ ::
        ⟨139, .leaf ⟨.auxSymCommentToken2, pos + 2, pos + 2 + b.length + 1⟩ false⟩ ::
        ⟨145, .leaf ⟨openerSymbol o, pos, pos + 2⟩ false⟩ :: σ, pos + 2 + b.length + 1 + 1,
        rest, none⟩ =
      .next ⟨⟨topState σ, .node .symComment 0 true [.leaf ⟨openerSymbol o, pos, pos + 2⟩ false,
        .leaf ⟨.auxSymCommentToken2, pos + 2, pos + 2 + b.length + 1⟩ false,
        .leaf ⟨.anonSymSlash, pos + 2 + b.length + 1, pos + 2 + b.length + 1 + 1⟩ false]⟩ :: σ,
        pos + 2 + b.length + 1 + 1, rest, none⟩ :=
    step_endOfExtra rfl (show tsLexModes 151 = noLexState from rfl)
      (show effectiveAction (tsLanguageActions 151 .tsBuiltinSymEnd) =
        some (.reduce .symComment 3 0) by decide)
      (by simp [reduce, popCount, Subtree.extra, splitTrailingExtras, hgoto])
  rw [run_succ_of_next h1, run_succ_of_next h2, run_succ_of_next h3, run_succ_of_next h4,
    run_succ_of_next h5, run_succ_of_next h6, run_succ_of_next h7]

/-! ## Inserting a comment or whitespace -/

/-- A token of a run and the token in its place in a run whose input has `d` more characters
at position `p`: the same if it ends by `p`, moved `d` to the right if it starts from `p` on. -/
def TokenMoved (p d : Nat) (tok tok' : Token) : Prop :=
  tok.stop ≤ p ∧ tok' = tok ∨ p ≤ tok.start ∧ tok' = tok.shift d

theorem tokenMoved_shift {p d : Nat} (tok : Token) (h : p ≤ tok.start) :
    TokenMoved p d tok (tok.shift d) :=
  .inr ⟨h, rfl⟩

theorem TokenMoved.symbol {p d : Nat} {tok tok' : Token} (h : TokenMoved p d tok tok') :
    tok'.symbol = tok.symbol := by
  rcases h with ⟨-, rfl⟩ | ⟨-, rfl⟩ <;> rfl

/-- **After a comment, the runs keep step.** From a configuration a run reaches without
lookahead, in a state whose lex mode skips whitespace, a run that has read a comment there
and has whitespace `ws` left to skip, `d` positions further right once it is skipped, keeps
step with the run that has not: the comment's node is an extra entry in the same state. -/
theorem comment_sim {x : List Char} {c : Config} (hc : Reaches (Config.init x) c)
    (hla : c.lookahead = none) (hm : isSkipState (tsLexModes (topState c.stack)) = true)
    {T : Subtree} (hT : T.symbol = .symComment) (hx : T.extra = true) {ws : List Char}
    (hws : ws.all isSkipSpace = true) {d q : Nat} (hq : q + ws.length = c.pos + d) :
    Sim (TokenMoved c.pos d) c.pos d c
      ⟨⟨topState c.stack, T⟩ :: c.stack, q, ws ++ c.input, none⟩ := by
  have hok := hc.invariant (fun _ _ => step_configOk) (configOk_init x)
  have hcov := hc.invariant (fun _ _ => step_coverOk) (coverOk_init x)
  have hstack : StackRel (TokenMoved c.pos d) c.stack (⟨topState c.stack, T⟩ :: c.stack) :=
    (stackRel_cons_extra hx).2 (stackRel_self fun tok htok => .inl ⟨hcov.stop_le tok htok, rfl⟩)
  refine
    { stack := hstack, lookahead := by simp [hla], lookahead_span := by simp [hla],
      le_pos := le_rfl, pending := fun _ => ⟨ws, rfl, hws, hq, fun _ => hm⟩, ok := hok,
      ok' := ⟨⟨hok.stack, by simp [EntryOk, hx]⟩, ?_, by simp⟩ }
  rintro e (_ | ⟨_, he⟩)
  · simp [TreeOk, hx, Subtree.isComment, hT]
  · exact hok.trees e he

/-- **A line comment inserted where the parser is about to lex changes nothing but itself and
the positions after it.** Take any configuration a run reaches without lookahead, in a state
whose lex mode skips whitespace, and a content `cm` free of newlines and NUL that is not
whitespace followed by exactly a comment marker. Running on the input with `# cm` and a
newline inserted, the driver takes five more steps and then keeps step with the run on the
input as it was: for every bound, both accept, with trees equal once their comments are
erased, save that tokens from the insertion on are moved by the comment's length; or both
fail; or both run out of steps. -/
theorem lineComment_transparent {x : List Char} {c : Config} (hc : Reaches (Config.init x) c)
    (hla : c.lookahead = none) (hm : isSkipState (tsLexModes (topState c.stack)) = true)
    {cm : List Char} (hcm : lineCommentContent.IsContent cm)
    (hmark : lineCommentContent.markerContent cm = false) (n : Nat) :
    RunSim (TokenMoved c.pos (cm.length + 2)) (run n c)
      (run (n + 5) { c with input := '#' :: cm ++ '\n' :: c.input }) := by
  have hok := hc.invariant (fun _ _ => step_configOk) (configOk_init x)
  obtain ⟨σ, pos, input, la⟩ := c
  cases hla
  rw [lineComment_steps hok.stack hm hcm hmark n]
  exact run_sim (fun tok h => tokenMoved_shift tok h) (fun _ _ h => h.symbol) n
    (comment_sim hc rfl hm (by rfl) (by rfl) (show ['\n'].all isSkipSpace = true from rfl) (by simp; omega))

/-- Before an empty input, `# c` and its newline. -/
theorem lineComment_transparent_empty :
    Reaches (Config.init []) (Config.init []) ∧ (Config.init []).lookahead = none ∧
      isSkipState (tsLexModes (topState (Config.init []).stack)) = true ∧
      lineCommentContent.IsContent [' ', 'c'] ∧ lineCommentContent.markerContent [' ', 'c'] = false ∧
      RunSim (TokenMoved 0 4) (run 3 (Config.init [])) (run 8 ⟨[], 0, ['#', ' ', 'c', '\n'], none⟩) :=
  have hcm : lineCommentContent.IsContent [' ', 'c'] := by unfold ContentMode.IsContent; decide
  ⟨.refl _, rfl, rfl, hcm, rfl, lineComment_transparent (.refl _) rfl rfl hcm rfl 3⟩

/-- **A block comment inserted where the parser is about to lex changes nothing but itself
and the positions after it.** Take any configuration a run reaches without lookahead, in a
state whose lex mode skips whitespace, with an input that does not go on with `*` or `/`, and
a body `b` with no NUL and no `*/` that is not whitespace followed by exactly `/`. Running on
the input with `/* b */`, or `// b */`, inserted, the driver takes seven more steps and then
keeps step with the run on the input as it was, with tokens from the insertion on moved by
the comment's length. -/
theorem blockComment_transparent {x : List Char} {c : Config} (hc : Reaches (Config.init x) c)
    (hla : c.lookahead = none) (hm : isSkipState (tsLexModes (topState c.stack)) = true)
    (hnext : c.input.head? ≠ some '*' ∧ c.input.head? ≠ some '/') {o : Char} (ho : o = '*' ∨ o = '/')
    {b : List Char} (hb : IsBlockBody b) (n : Nat) :
    RunSim (TokenMoved c.pos (b.length + 4)) (run n c)
      (run (n + 7) { c with input := '/' :: o :: (b ++ '*' :: '/' :: c.input) }) := by
  have hok := hc.invariant (fun _ _ => step_configOk) (configOk_init x)
  obtain ⟨σ, pos, input, la⟩ := c
  cases hla
  rw [blockComment_steps hok.stack hm ho hb hnext n]
  exact run_sim (fun tok h => tokenMoved_shift tok h) (fun _ _ h => h.symbol) n
    (comment_sim hc rfl hm (by rfl) (by rfl) (show ([] : List Char).all isSkipSpace = true from rfl)
      (by simp; omega))

/-- Before an empty input, `/* c */`. -/
theorem blockComment_transparent_empty :
    Reaches (Config.init []) (Config.init []) ∧ (Config.init []).lookahead = none ∧
      isSkipState (tsLexModes (topState (Config.init []).stack)) = true ∧
      ((Config.init []).input.head? ≠ some '*' ∧ (Config.init []).input.head? ≠ some '/') ∧
      IsBlockBody [' ', 'c', ' '] ∧
      RunSim (TokenMoved 0 7) (run 3 (Config.init []))
        (run 10 ⟨[], 0, ['/', '*', ' ', 'c', ' ', '*', '/'], none⟩) :=
  have hb : IsBlockBody [' ', 'c', ' '] :=
    ⟨by decide, fun h => absurd (h.subset (List.mem_cons_self '*' _)) (by decide), by decide⟩
  ⟨.refl _, rfl, rfl, by decide, hb, blockComment_transparent (.refl _) rfl rfl (by decide) (.inl rfl) hb 3⟩

/-- **Whitespace inserted where the parser is about to lex changes nothing but the positions
after it**: from any configuration a run reaches without lookahead, in a state whose lex mode
skips whitespace, the run on the input with whitespace `ws` inserted keeps step with the run
on the input as it was, with tokens from the insertion on moved by its length. -/
theorem whitespace_transparent {x : List Char} {c : Config} (hc : Reaches (Config.init x) c)
    (hla : c.lookahead = none) (hm : isSkipState (tsLexModes (topState c.stack)) = true)
    {ws : List Char} (hws : ws.all isSkipSpace = true) (n : Nat) :
    RunSim (TokenMoved c.pos ws.length) (run n c) (run n { c with input := ws ++ c.input }) := by
  have hok := hc.invariant (fun _ _ => step_configOk) (configOk_init x)
  have hcov := hc.invariant (fun _ _ => step_coverOk) (coverOk_init x)
  refine run_sim (fun tok h => tokenMoved_shift tok h) (fun _ _ h => h.symbol) n
    { stack := stackRel_self fun tok htok => .inl ⟨hcov.stop_le tok htok, rfl⟩,
      lookahead := by simp [hla], lookahead_span := by simp [hla], le_pos := le_rfl,
      pending := fun _ => ⟨ws, rfl, hws, rfl, fun _ => hm⟩, ok := hok,
      ok' := ⟨hok.stack, hok.trees, hok.lookahead⟩ }

/-- Before an empty input, a space. -/
theorem whitespace_transparent_empty :
    Reaches (Config.init []) (Config.init []) ∧ (Config.init []).lookahead = none ∧
      isSkipState (tsLexModes (topState (Config.init []).stack)) = true ∧
      [' '].all isSkipSpace = true ∧
      RunSim (TokenMoved 0 1) (run 3 (Config.init [])) (run 3 ⟨[], 0, [' '], none⟩) :=
  ⟨.refl _, rfl, rfl, rfl, whitespace_transparent (.refl _) rfl rfl (show [' '].all isSkipSpace = true from rfl) 3⟩

/-- **A line comment before an input changes nothing but itself and the positions**: the
input is accepted exactly when it is with `# cm` and a newline before it, with trees equal
once their comments are erased, save that every token is moved by the comment's length. -/
theorem leadingComment_accepts {x cm : List Char} (hcm : lineCommentContent.IsContent cm)
    (hmark : lineCommentContent.markerContent cm = false) :
    (∀ t, Accepts x t → ∃ t', Accepts ('#' :: cm ++ '\n' :: x) t' ∧
      Subtree.Rel (fun tok tok' => tok' = tok.shift (cm.length + 2)) t.eraseComments t'.eraseComments) ∧
    (∀ t', Accepts ('#' :: cm ++ '\n' :: x) t' → ∃ t, Accepts x t ∧
      Subtree.Rel (fun tok tok' => tok' = tok.shift (cm.length + 2)) t.eraseComments t'.eraseComments) := by
  have hm : isSkipState (tsLexModes (topState (Config.init x).stack)) = true := rfl
  have hsim : ∀ n, RunSim (fun tok tok' => tok' = tok.shift (cm.length + 2)) (run n (Config.init x))
      (run (n + 5) (Config.init ('#' :: cm ++ '\n' :: x))) := fun n => by
    rw [show Config.init ('#' :: cm ++ '\n' :: x) = ⟨[], 0, '#' :: cm ++ '\n' :: x, none⟩ from rfl,
      lineComment_steps stackOk_nil hm hcm hmark n]
    refine @run_sim (fun tok tok' => tok' = tok.shift (cm.length + 2)) 0 (cm.length + 2)
      (fun _ _ => rfl) (fun _ _ h => by rw [h]; rfl) n _ _
      { stack := (stackRel_cons_extra (by rfl)).2 .nil, lookahead := rfl,
        lookahead_span := by simp [Config.init], le_pos := le_rfl,
        pending := fun _ => ⟨['\n'], rfl, rfl, by simp [Config.init]; omega, fun _ => hm⟩,
        ok := configOk_init x, ok' := ?_ }
    refine ⟨⟨trivial, by simp [EntryOk, Subtree.extra]⟩, ?_, by simp⟩
    rintro _ (_ | ⟨_, he⟩)
    · simp [TreeOk, Subtree.extra, Subtree.isComment, Subtree.symbol]
    · cases he
  exact RunSim.accepts hsim

/-- Before an empty input, `# c` and its newline. -/
theorem leadingComment_accepts_empty :
    lineCommentContent.IsContent [' ', 'c'] ∧ lineCommentContent.markerContent [' ', 'c'] = false ∧
      (∀ t, Accepts [] t → ∃ t', Accepts ['#', ' ', 'c', '\n'] t' ∧
        Subtree.Rel (fun tok tok' => tok' = tok.shift 4) t.eraseComments t'.eraseComments) ∧
      (∀ t', Accepts ['#', ' ', 'c', '\n'] t' → ∃ t, Accepts [] t ∧
        Subtree.Rel (fun tok tok' => tok' = tok.shift 4) t.eraseComments t'.eraseComments) :=
  have hcm : lineCommentContent.IsContent [' ', 'c'] := by unfold ContentMode.IsContent; decide
  ⟨hcm, rfl, leadingComment_accepts hcm rfl⟩

end TreeSitterTxtx
