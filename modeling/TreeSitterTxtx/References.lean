import TreeSitterTxtx.Identifiers
import TreeSitterTxtx.Tree

/-!
# Dotted references

A dotted reference `i₁.i₂. … .iₙ` in an expression position parses as one `reference` node.
The driver shifts `i₁` into a state `head`; then each `.` and identifier is shifted into the
states `dot` and `ident`, and the pair is reduced to `reference_repeat1` on the next
lookahead, in `rest` after `i₁` and in `rest2` after an earlier repetition, where it is
reduced again with that one. At the first token that is not `.`, the reference is reduced
with one child or with `i₁` and the repetition. `ChainStates` names these states and
`ChainStates.Valid` the entries of the tables the run takes; the input values and the
attribute values each have their own copy of the states (`inputChain`, `attributeChain`).

`chain_reaches` is the run from `i₁` on, for any number of segments, and `dotted_reference`
the documents `input "k" = i₁. … .iₙ` and `variable "v" { a = i₁. … .iₙ }`: both are
accepted, with one reference whose identifiers are `i₁, …, iₙ` and no binary expression.
A `/` in place of a `.` divides (`slash_divides`).
-/

namespace TreeSitterTxtx

/-! ## Identifier runs -/

/-- A nonempty run `[A-Za-z_][A-Za-z0-9_]*`. -/
def isIdentRun : List Char → Bool
  | c :: tail => isIdentStart c && tail.all isIdentChar
  | [] => false

/-- Text that cannot continue an identifier: the end of the input or another character. -/
def endsIdentRun : List Char → Bool
  | c :: _ => !isIdentChar c
  | [] => true

theorem takeWhile_identRun {tail r : List Char} (ht : tail.all isIdentChar = true)
    (hr : endsIdentRun r = true) :
    (tail ++ r).takeWhile isIdentChar = tail ∧ (tail ++ r).dropWhile isIdentChar = r := by
  induction tail with
  | nil =>
    cases r with
    | nil => simp
    | cons c r =>
      simp only [endsIdentRun, Bool.not_eq_true'] at hr
      simp [List.takeWhile_cons_of_neg, List.dropWhile_cons_of_neg, hr]
  | cons c tail ih =>
    simp only [List.all_cons, Bool.and_eq_true] at ht
    obtain ⟨h1, h2⟩ := ih ht.2
    simp [List.takeWhile_cons_of_pos ht.1, List.dropWhile_cons_of_pos ht.1, h1, h2]

theorem identifierRunLength_identRun {w r : List Char} (hw : isIdentRun w = true)
    (hr : endsIdentRun r = true) : identifierRunLength (w ++ r) = w.length := by
  match w, hw with
  | c :: tail, hw =>
    simp only [isIdentRun, Bool.and_eq_true] at hw
    simp [identifierRunLength, hw.1, (takeWhile_identRun hw.2 hr).1, Nat.add_comm]

/-- **Mode `1` lexes an identifier run as the identifier**, whatever follows that cannot
continue it. -/
theorem lex_modeOne_identRun {pos : Nat} {w r : List Char} (hw : isIdentRun w = true)
    (hr : endsIdentRun r = true) :
    tsLex 1 pos (w ++ r) = some (⟨.symIdentifier, pos, pos + w.length⟩, r) := by
  match w, hw with
  | c :: tail, hw =>
    have hw' := hw
    simp only [isIdentRun, Bool.and_eq_true] at hw'
    rw [List.cons_append, lex_modeOne hw'.1, ← List.cons_append,
      identifierRunLength_identRun hw hr, (takeWhile_identRun hw'.2 hr).2]

/-- **Mode `2` lexes an identifier run other than `true`, `false` and `null` as the
identifier.** -/
theorem lex_modeTwo_identRun {pos : Nat} {w r : List Char} (hw : isIdentRun w = true)
    (hr : endsIdentRun r = true) (hk : w ∉ [['t', 'r', 'u', 'e'], ['f', 'a', 'l', 's', 'e'],
      ['n', 'u', 'l', 'l']]) :
    tsLex 2 pos (w ++ r) = some (⟨.symIdentifier, pos, pos + w.length⟩, r) := by
  match w, hw with
  | c :: tail, hw =>
    have hw' := hw
    simp only [isIdentRun, Bool.and_eq_true] at hw'
    have hkind : modeTwoKind (c :: tail) = .symIdentifier := by
      simp only [List.mem_cons, List.not_mem_nil, or_false, not_or] at hk
      simp [modeTwoKind, hk.1, hk.2.1, hk.2.2]
    rw [List.cons_append, lex_modeTwo hw'.1, (takeWhile_identRun hw'.2 hr).1, hkind,
      ← List.cons_append, identifierRunLength_identRun hw hr, (takeWhile_identRun hw'.2 hr).2]

/-- Modes `1` and `46` lex `.` as itself. -/
theorem lex_dot {m pos : Nat} (hm : m = 1 ∨ m = 46) (r : List Char) :
    tsLex m pos ('.' :: r) = some (⟨.anonSymDot, pos, pos + 1⟩, r) := by
  have hmove : tsLexMove m false '.' = .advance 90 := by rcases hm with rfl | rfl <;> rfl
  have hacc : tsLexAccept m = none := by rcases hm with rfl | rfl <;> rfl
  have h90 : ∀ e c, tsLexMove 90 e c = .stop := fun _ _ => rfl
  rw [tsLex, tsLexRun_cons_advance hmove]
  cases r <;> simp [tsLexRun, h90, acceptAt, hacc] <;> rfl

/-! ## The states of a reference -/

/-- The states a dotted reference passes through after an expression position, and the lex
mode in which `.` and the token after the reference are lexed. -/
structure ChainStates where
  head : Nat
  dot : Nat
  ident : Nat
  rest : Nat
  rest2 : Nat
  mode : Nat

/-- The table entries the run over a dotted reference takes, when the token after it has the
symbol `X`. -/
structure ChainStates.Valid (q : ChainStates) (X : Symbol) : Prop where
  head_dot : effectiveAction (tsLanguageActions q.head .anonSymDot) = some (.shift q.dot)
  rest_dot : effectiveAction (tsLanguageActions q.rest .anonSymDot) = some (.shift q.dot)
  dot_ident : effectiveAction (tsLanguageActions q.dot .symIdentifier) = some (.shift q.ident)
  ident_dot : effectiveAction (tsLanguageActions q.ident .anonSymDot) =
    some (.reduce .auxSymReferenceRepeat1 2 0)
  rest2_dot : effectiveAction (tsLanguageActions q.rest2 .anonSymDot) =
    some (.reduce .auxSymReferenceRepeat1 2 0)
  ident_end : effectiveAction (tsLanguageActions q.ident X) =
    some (.reduce .auxSymReferenceRepeat1 2 0)
  rest2_end : effectiveAction (tsLanguageActions q.rest2 X) =
    some (.reduce .auxSymReferenceRepeat1 2 0)
  rest_end : effectiveAction (tsLanguageActions q.rest X) = some (.reduce .symReference 2 0)
  head_end : effectiveAction (tsLanguageActions q.head X) = some (.reduce .symReference 1 0)
  goto_head : tsLanguageNextState q.head .auxSymReferenceRepeat1 = q.rest
  goto_rest : tsLanguageNextState q.rest .auxSymReferenceRepeat1 = q.rest2
  mode_head : tsLexModes q.head = q.mode
  mode_ident : tsLexModes q.ident = q.mode
  mode_dot : tsLexModes q.dot = 1
  mode_dots : q.mode = 1 ∨ q.mode = 46

/-- The states of a reference that is the value of an input. -/
def inputChain : ChainStates := ⟨21, 127, 23, 24, 22, 46⟩

/-- The states of a reference that is the value of an attribute. -/
def attributeChain : ChainStates := ⟨47, 119, 60, 56, 61, 1⟩

theorem inputChain_valid : inputChain.Valid .tsBuiltinSymEnd :=
  ⟨rfl, rfl, rfl, rfl, rfl, rfl, rfl, rfl, rfl, rfl, rfl, rfl, rfl, rfl, .inr rfl⟩

theorem attributeChain_valid : attributeChain.Valid .anonSymRbrace :=
  ⟨rfl, rfl, rfl, rfl, rfl, rfl, rfl, rfl, rfl, rfl, rfl, rfl, rfl, rfl, .inl rfl⟩

/-! ## The trees of a reference -/

/-- The pair of a `.` at `p` and the identifier `w` after it. -/
def pairTree (p : Nat) (w : List Char) : Subtree :=
  .node .auxSymReferenceRepeat1 0 false
    [.leaf ⟨.anonSymDot, p, p + 1⟩ false, .leaf ⟨.symIdentifier, p + 1, p + 1 + w.length⟩ false]

/-- A pair reduced onto the repetition of the pairs before it, if any. -/
def pushPair : Option Subtree → Subtree → Subtree
  | none, t => t
  | some r, t => .node .auxSymReferenceRepeat1 0 false [r, t]

/-- The repetition of the pairs `ws` from position `p` on, after the repetition `acc`. -/
def repTree : Option Subtree → Nat → List (List Char) → Option Subtree
  | acc, _, [] => acc
  | acc, p, w :: ws => repTree (some (pushPair acc (pairTree p w))) (p + 1 + w.length) ws

/-- The end of the pairs `ws` from position `p` on. -/
def chainEnd : Nat → List (List Char) → Nat
  | p, [] => p
  | p, w :: ws => chainEnd (p + 1 + w.length) ws

/-- The reference of the identifier `i₁` and the repetition after it, if any. -/
def refTree (i1 : Token) (acc : Option Subtree) : Subtree :=
  .node .symReference 0 false (.leaf i1 false :: acc.toList)

/-- The text of the segments after the first: each a `.` and an identifier. -/
def dotSegments (ws : List (List Char)) : List Char := ws.flatMap ('.' :: ·)

/-- The stack under the last pair: `i₁` in `head`, under the repetition in `rest` if any. -/
def chainBase (q : ChainStates) (i1 : Token) (σ : List StackEntry) :
    Option Subtree → List StackEntry
  | none => ⟨q.head, .leaf i1 false⟩ :: σ
  | some r => ⟨q.rest, r⟩ :: ⟨q.head, .leaf i1 false⟩ :: σ

theorem dotSegments_cons_append (w : List Char) (ws : List (List Char)) (r : List Char) :
    dotSegments (w :: ws) ++ r = '.' :: (w ++ (dotSegments ws ++ r)) := by
  simp [dotSegments]

/-! ## The run over a reference -/

section
variable {q : ChainStates} {X : Symbol} (hq : q.Valid X) {i1 : Token} {σ : List StackEntry}

include hq in
theorem ChainStates.Valid.mode_ne : q.mode ≠ noLexState := by
  rcases hq.mode_dots with h | h <;> rw [h] <;> decide

include hq in
/-- **A pair is reduced onto the repetition.** On a lookahead that ends the pair, the pair
of the `.` and the identifier on top of the stack is reduced to `reference_repeat1`, and
onto the repetition of the pairs before it, if any. -/
theorem reaches_pushPair {Y : Symbol}
    (hY : effectiveAction (tsLanguageActions q.ident Y) =
      some (.reduce .auxSymReferenceRepeat1 2 0))
    (hY2 : effectiveAction (tsLanguageActions q.rest2 Y) =
      some (.reduce .auxSymReferenceRepeat1 2 0))
    {tok : Token} (htok : tok.symbol = Y) {pos : Nat} {input rest : List Char} {D W : Subtree}
    (hD : D.extra = false) (hW : W.extra = false) {acc : Option Subtree}
    (hacc : ∀ R ∈ acc, R.extra = false) :
    Reaches ⟨⟨q.ident, W⟩ :: ⟨q.dot, D⟩ :: chainBase q i1 σ acc, pos, input, some (tok, rest)⟩
      ⟨⟨q.rest, pushPair acc (.node .auxSymReferenceRepeat1 0 false [D, W])⟩ ::
        ⟨q.head, .leaf i1 false⟩ :: σ, pos, input, some (tok, rest)⟩ := by
  have hact : effectiveAction (tsLanguageActions (topState (⟨q.ident, W⟩ :: ⟨q.dot, D⟩ ::
      chainBase q i1 σ acc)) tok.symbol) = some (.reduce .auxSymReferenceRepeat1 2 0) := by
    rw [topState_cons, htok]; exact hY
  cases acc with
  | none =>
    refine .single (step_reduce rfl hact ?_)
    rw [reduce_two hW hD]
    simp [chainBase, hq.goto_head, pushPair]
  | some R =>
    have h1 : step ⟨⟨q.ident, W⟩ :: ⟨q.dot, D⟩ :: chainBase q i1 σ (some R), pos, input,
        some (tok, rest)⟩ = .next ⟨⟨q.rest2, .node .auxSymReferenceRepeat1 0 false [D, W]⟩ ::
          ⟨q.rest, R⟩ :: ⟨q.head, .leaf i1 false⟩ :: σ, pos, input, some (tok, rest)⟩ := by
      refine step_reduce rfl hact ?_
      rw [reduce_two hW hD]
      simp [chainBase, hq.goto_rest]
    refine .head h1 (.single (step_reduce rfl (show effectiveAction (tsLanguageActions q.rest2
      tok.symbol) = some (.reduce .auxSymReferenceRepeat1 2 0) by rw [htok]; exact hY2) ?_))
    rw [reduce_two (show Subtree.extra (.node .auxSymReferenceRepeat1 0 false [D, W]) = false
      from rfl) (hacc R rfl)]
    simp [hq.goto_head, pushPair]

variable {r r' : List Char} {fin : Nat → Token} (hfin : ∀ p, (fin p).symbol = X)
  (hend : ∀ p, tsLex q.mode p r = some (fin p, r')) (hr : endsIdentRun r = true)

include hr in
theorem endsIdentRun_dotSegments (ws : List (List Char)) :
    endsIdentRun (dotSegments ws ++ r) = true := by
  cases ws with
  | nil => exact hr
  | cons w ws => rfl

include hq hfin hend hr in
/-- **The pairs of a reference.** From an identifier shifted after a `.`, over the segments
`ws` left, the driver reduces each pair onto the repetition, and at the token after the
last one it reduces the reference. -/
theorem pairs_reach : ∀ (ws : List (List Char)) (acc : Option Subtree) (p : Nat)
    (w : List Char), (∀ v ∈ ws, isIdentRun v = true) → (∀ R ∈ acc, R.extra = false) →
    Reaches ⟨⟨q.ident, .leaf ⟨.symIdentifier, p + 1, p + 1 + w.length⟩ false⟩ ::
        ⟨q.dot, .leaf ⟨.anonSymDot, p, p + 1⟩ false⟩ :: chainBase q i1 σ acc,
        p + 1 + w.length, dotSegments ws ++ r, none⟩
      ⟨⟨tsLanguageNextState (topState σ) .symReference, refTree i1 (repTree acc p (w :: ws))⟩ :: σ,
        chainEnd p (w :: ws), r, some (fin (chainEnd p (w :: ws)), r')⟩
  | [], acc, p, w, _, hacc =>
    -- the token after the reference ends the last pair and the reference
    (Reaches.lex hq.mode_ident hq.mode_ne (hend _)).trans
      ((reaches_pushPair hq hq.ident_end hq.rest2_end (hfin _) (by rfl) (by rfl) hacc).trans
        (.single (step_reduce rfl (by rw [topState_cons, hfin]; exact hq.rest_end)
          (reduce_two (by cases acc <;> rfl) rfl))))
  | w' :: ws, acc, p, w, hws, hacc => by
    -- a `.` ends the pair, and the next pair is shifted
    rw [dotSegments_cons_append]
    exact (Reaches.lex hq.mode_ident hq.mode_ne (lex_dot hq.mode_dots _)).trans
      ((reaches_pushPair hq hq.ident_dot hq.rest2_dot (by rfl) (by rfl) (by rfl) hacc).trans
        (.head (step_shift rfl hq.rest_dot)
          ((Reaches.lex_shift hq.mode_dot (by decide)
            (lex_modeOne_identRun (hws w' (List.mem_cons_self _ _))
              (endsIdentRun_dotSegments hr ws)) hq.dot_ident).trans
            (pairs_reach ws (some (pushPair acc (pairTree p w))) (p + 1 + w.length) w'
              (fun v hv => hws v (List.mem_cons_of_mem _ hv))
              (by rintro R ⟨⟩; cases acc <;> rfl)))))

include hq hfin hend hr in
/-- **The run over a dotted reference.** From its first identifier shifted in `head`, over
any number of segments `.iₖ`, the driver reduces the reference, with the pairs in order, on
the token after it. -/
theorem chain_reaches (ws : List (List Char)) (hws : ∀ v ∈ ws, isIdentRun v = true) :
    Reaches ⟨⟨q.head, .leaf i1 false⟩ :: σ, i1.stop, dotSegments ws ++ r, none⟩
      ⟨⟨tsLanguageNextState (topState σ) .symReference, refTree i1 (repTree none i1.stop ws)⟩ ::
        σ, chainEnd i1.stop ws, r, some (fin (chainEnd i1.stop ws), r')⟩ := by
  cases ws with
  | nil =>
    exact (Reaches.lex hq.mode_head hq.mode_ne (hend _)).trans
      (.single (step_reduce rfl (by rw [topState_cons, hfin]; exact hq.head_end)
        (reduce_one (by rfl))))
  | cons w ws =>
    rw [dotSegments_cons_append]
    exact (Reaches.lex_shift hq.mode_head hq.mode_ne (lex_dot hq.mode_dots _) hq.head_dot).trans
      ((Reaches.lex_shift hq.mode_dot (by decide)
        (lex_modeOne_identRun (hws w (List.mem_cons_self _ _))
          (endsIdentRun_dotSegments hr ws)) hq.dot_ident).trans
        (pairs_reach hq hfin hend hr ws none i1.stop w
          (fun v hv => hws v (List.mem_cons_of_mem _ hv)) (by rintro R ⟨⟩)))

end

/-! ## Reference values -/

/-- Mode `2` skips a space before a token. -/
theorem tsLex_two_space (pos : Nat) (X : List Char) :
    tsLex 2 pos (' ' :: X) = tsLex 2 (pos + 1) X := by
  simp only [tsLex, tsLexRun, acceptAt, show tsLexMove 2 false ' ' = .skip 2 from rfl,
    show tsLexAccept 2 = none from rfl]

/-- **A reference value.** From a state `s₀` of lex mode `2` that shifts an identifier into
`q.head`, a space and the reference `i. w₁. … .wₙ` run to the reference reduced in the goto
state of `s₀`, on the token after it. -/
theorem value_reaches {q : ChainStates} {X : Symbol} (hq : q.Valid X) {s₀ pos : Nat}
    {t₀ : Subtree} {σ : List StackEntry} (hmode : tsLexModes s₀ = 2)
    (hshift : effectiveAction (tsLanguageActions s₀ .symIdentifier) = some (.shift q.head))
    {r r' : List Char} {fin : Nat → Token} (hfin : ∀ p, (fin p).symbol = X)
    (hend : ∀ p, tsLex q.mode p r = some (fin p, r')) (hr : endsIdentRun r = true)
    {i : List Char} (hi : isIdentRun i = true)
    (hk : i ∉ [['t', 'r', 'u', 'e'], ['f', 'a', 'l', 's', 'e'], ['n', 'u', 'l', 'l']])
    (ws : List (List Char)) (hws : ∀ v ∈ ws, isIdentRun v = true) :
    Reaches ⟨⟨s₀, t₀⟩ :: σ, pos, ' ' :: (i ++ (dotSegments ws ++ r)), none⟩
      ⟨⟨tsLanguageNextState s₀ .symReference, refTree ⟨.symIdentifier, pos + 1, pos + 1 + i.length⟩
          (repTree none (pos + 1 + i.length) ws)⟩ :: ⟨s₀, t₀⟩ :: σ,
        chainEnd (pos + 1 + i.length) ws, r, some (fin (chainEnd (pos + 1 + i.length) ws), r')⟩ := by
  have hx : tsLex 2 pos (' ' :: (i ++ (dotSegments ws ++ r))) =
      some (⟨.symIdentifier, pos + 1, pos + 1 + i.length⟩, dotSegments ws ++ r) := by
    rw [tsLex_two_space]; exact lex_modeTwo_identRun hi (endsIdentRun_dotSegments hr ws) hk
  exact (Reaches.lex_shift hmode (by decide) hx hshift).trans (chain_reaches hq hfin hend hr ws hws)

/-- The stack after `input "k" =`. -/
def inputStack : List StackEntry :=
  [⟨16, .leaf ⟨.anonSymEq, 10, 11⟩ false⟩,
    ⟨146, .node .symString 0 false [.leaf ⟨.anonSymDquote, 6, 7⟩ false,
      .leaf ⟨.auxSymStringToken1, 7, 8⟩ false, .leaf ⟨.anonSymDquote, 8, 9⟩ false]⟩,
    ⟨105, .leaf ⟨.anonSymInput, 0, 5⟩ false⟩]

/-- The stack after `variable "v" { a =`. -/
def attributeStack : List StackEntry :=
  [⟨19, .leaf ⟨.anonSymEq, 17, 18⟩ false⟩, ⟨133, .leaf ⟨.symIdentifier, 15, 16⟩ false⟩,
    ⟨97, .leaf ⟨.anonSymLbrace, 13, 14⟩ false⟩,
    ⟨122, .node .symString 0 false [.leaf ⟨.anonSymDquote, 9, 10⟩ false,
      .leaf ⟨.auxSymStringToken1, 10, 11⟩ false, .leaf ⟨.anonSymDquote, 11, 12⟩ false]⟩,
    ⟨102, .leaf ⟨.anonSymVariable, 0, 8⟩ false⟩]

/-- The run over `input "k" =`, whatever follows. -/
theorem inputPrefix_reaches (X : List Char) :
    Reaches (Config.init ("input \"k\" = ".toList ++ X)) ⟨inputStack, 11, ' ' :: X, none⟩ := by
  unfold inputStack
  exact (Reaches.lex_shift_init (by rfl) (by rfl)).trans <|
  (Reaches.lex_shift (by rfl) (by decide) (by rfl) (by rfl)).trans <|
  (Reaches.lex_shift (by rfl) (by decide) (by rfl) (by rfl)).trans <|
  (Reaches.lex_shift (by rfl) (by decide) (by rfl) (by rfl)).trans <|
  (Reaches.lex (by rfl) (by decide) (by rfl)).trans <|
  (Reaches.reduce [_, _] (by rfl) (by rfl)).trans <|
  Reaches.shift (by rfl)

/-- The run over `variable "v" { a =`, whatever follows. -/
theorem attributePrefix_reaches (X : List Char) :
    Reaches (Config.init ("variable \"v\" \x7b a = ".toList ++ X))
      ⟨attributeStack, 18, ' ' :: X, none⟩ := by
  unfold attributeStack
  exact (Reaches.lex_shift_init (by rfl) (by rfl)).trans <|
  (Reaches.lex_shift (by rfl) (by decide) (by rfl) (by rfl)).trans <|
  (Reaches.lex_shift (by rfl) (by decide) (by rfl) (by rfl)).trans <|
  (Reaches.lex_shift (by rfl) (by decide) (by rfl) (by rfl)).trans <|
  (Reaches.lex (by rfl) (by decide) (by rfl)).trans <|
  (Reaches.reduce [_, _] (by rfl) (by rfl)).trans <|
  (Reaches.shift (by rfl)).trans <|
  (Reaches.lex_shift (by rfl) (by decide) (by rfl) (by rfl)).trans <|
  Reaches.lex_shift (by rfl) (by decide) (by rfl) (by rfl)

/-- The document `input "k" = i.w₁. … .wₙ`. -/
def inputDocument (i : List Char) (ws : List (List Char)) : List Char :=
  "input \"k\" = ".toList ++ (i ++ dotSegments ws)

/-- The document `variable "v" { a = i.w₁. … .wₙ }`. -/
def attributeDocument (i : List Char) (ws : List (List Char)) : List Char :=
  "variable \"v\" \x7b a = ".toList ++ (i ++ (dotSegments ws ++ " \x7d".toList))

/-- The tree of `input "k" = …` with the reference `R`, the input ending at `e`. -/
def inputTree (R : Subtree) (e : Nat) : Subtree :=
  .node .symRunbook 0 false [
    .node .auxSymRunbookRepeat1 0 false [
      .node .symStatement 0 false [
        .node .symInputDeclaration 5 false [
          .leaf ⟨.anonSymInput, 0, 5⟩ false,
          .node .symString 0 false [
            .leaf ⟨.anonSymDquote, 6, 7⟩ false,
            .leaf ⟨.auxSymStringToken1, 7, 8⟩ false,
            .leaf ⟨.anonSymDquote, 8, 9⟩ false],
          .leaf ⟨.anonSymEq, 10, 11⟩ false,
          .node .symExpression 0 false [R]]]],
    .leaf ⟨.tsBuiltinSymEnd, e, e⟩ true]

/-- The tree of `variable "v" { a = … }` with the reference `R`, ending at `e`. -/
def attributeTree (R : Subtree) (e : Nat) : Subtree :=
  .node .symRunbook 0 false [
    .node .auxSymRunbookRepeat1 0 false [
      .node .symStatement 0 false [
        .node .symVariableDeclaration 3 false [
          .leaf ⟨.anonSymVariable, 0, 8⟩ false,
          .node .symString 0 false [
            .leaf ⟨.anonSymDquote, 9, 10⟩ false,
            .leaf ⟨.auxSymStringToken1, 10, 11⟩ false,
            .leaf ⟨.anonSymDquote, 11, 12⟩ false],
          .node .symBlock 0 false [
            .leaf ⟨.anonSymLbrace, 13, 14⟩ false,
            .node .auxSymBlockRepeat1 0 false [
              .node .symAttribute 6 false [
                .leaf ⟨.symIdentifier, 15, 16⟩ false,
                .leaf ⟨.anonSymEq, 17, 18⟩ false,
                .node .symExpression 0 false [R]]],
            .leaf ⟨.anonSymRbrace, e + 1, e + 1 + 1⟩ false]]]],
    .leaf ⟨.tsBuiltinSymEnd, e + 1 + 1, e + 1 + 1⟩ true]

section
variable {i : List Char} (hi : isIdentRun i = true)
  (hk : i ∉ [['t', 'r', 'u', 'e'], ['f', 'a', 'l', 's', 'e'], ['n', 'u', 'l', 'l']])
  {ws : List (List Char)} (hws : ∀ v ∈ ws, isIdentRun v = true)

include hi hk hws in
theorem inputDocument_accepted :
    Accepts (inputDocument i ws) (inputTree (refTree ⟨.symIdentifier, 12, 12 + i.length⟩
      (repTree none (12 + i.length) ws)) (chainEnd (12 + i.length) ws)) := by
  rw [inputDocument, ← List.append_nil (dotSegments ws)]
  exact accepts_of_reaches ((inputPrefix_reaches _).trans <|
    (value_reaches inputChain_valid (by rfl) (by rfl) (fun _ => by rfl)
      (fun p => show tsLex 46 p [] = some (⟨.tsBuiltinSymEnd, p, p⟩, []) from rfl) (by rfl)
      hi hk ws hws).trans <|
    (Reaches.reduce [] (by rfl) (by rfl)).trans <|
    (Reaches.reduce [_, _, _] (by rfl) (by rfl)).trans <|
    (Reaches.reduce [] (by rfl) (by rfl)).trans <|
    (Reaches.reduce [] (by rfl) (by rfl)).trans <|
    Reaches.reduce [] (by rfl) (by rfl)) (step_accept_top (by rfl) (by rfl))

include hi hk hws in
theorem attributeDocument_accepted :
    Accepts (attributeDocument i ws) (attributeTree (refTree ⟨.symIdentifier, 19, 19 + i.length⟩
      (repTree none (19 + i.length) ws)) (chainEnd (19 + i.length) ws)) :=
  accepts_of_reaches ((attributePrefix_reaches _).trans <|
    (value_reaches attributeChain_valid (by rfl) (by rfl) (fun _ => by rfl)
      (fun p => show tsLex 1 p " \x7d".toList = some (⟨.anonSymRbrace, p + 1, p + 1 + 1⟩, []) from rfl)
      (by rfl) hi hk ws hws).trans <|
    (Reaches.reduce [] (by rfl) (by rfl)).trans <|
    (Reaches.reduce [_, _] (by rfl) (by rfl)).trans <|
    (Reaches.reduce [] (by rfl) (by rfl)).trans <|
    (Reaches.shift (by rfl)).trans <|
    (Reaches.lex (by rfl) (by decide) (by rfl)).trans <|
    (Reaches.reduce [_, _] (by rfl) (by rfl)).trans <|
    (Reaches.reduce [_, _] (by rfl) (by rfl)).trans <|
    (Reaches.reduce [] (by rfl) (by rfl)).trans <|
    (Reaches.reduce [] (by rfl) (by rfl)).trans <|
    Reaches.reduce [] (by rfl) (by rfl)) (step_accept_top (by rfl) (by rfl))

end

/-! ## The reference in the tree -/

theorem leaves_pushPair (acc : Option Subtree) (t : Subtree) :
    (pushPair acc t).leaves = leavesList acc.toList ++ t.leaves := by
  cases acc <;> simp [pushPair, Subtree.leaves, leavesList]

/-- The identifiers of the pairs after the repetition `acc` spell the segments `ws`, in a
text that has them from `p` on. -/
theorem repTree_identifierTexts {doc post : List Char} : ∀ (ws : List (List Char))
    (acc : Option Subtree) (p : Nat), doc.drop p = dotSegments ws ++ post →
    ((leavesList (repTree acc p ws).toList).filter (·.symbol == .symIdentifier)).map
        (Token.text doc) =
      ((leavesList acc.toList).filter (·.symbol == .symIdentifier)).map (Token.text doc) ++ ws
  | [], acc, p, _ => by simp [repTree]
  | w :: ws, acc, p, h => by
    rw [dotSegments_cons_append] at h
    have h1 : doc.drop (p + 1) = w ++ (dotSegments ws ++ post) := by
      rw [← List.drop_drop, h]; rfl
    have h2 : doc.drop (p + 1 + w.length) = dotSegments ws ++ post := by
      rw [← List.drop_drop, h1, List.drop_left]
    simp only [repTree]
    rw [repTree_identifierTexts ws _ _ h2]
    simp [leaves_pushPair, pairTree, Subtree.leaves, leavesList, Token.text, h1]

/-- The identifiers of a reference spell its segments. -/
theorem refTree_identifierTexts {doc i post : List Char} {ws : List (List Char)} {p : Nat}
    (h : doc.drop p = i ++ (dotSegments ws ++ post)) :
    ((refTree ⟨.symIdentifier, p, p + i.length⟩ (repTree none (p + i.length) ws)).leaves.filter
      (·.symbol == .symIdentifier)).map (Token.text doc) = i :: ws := by
  have h' : doc.drop (p + i.length) = dotSegments ws ++ post := by
    rw [← List.drop_drop, h, List.drop_left]
  have hr := repTree_identifierTexts ws none (p + i.length) h'
  simp only [refTree, Subtree.leaves, leavesList, List.filter_cons] at hr ⊢
  simp [Token.text, h, hr]

/-- A node of a symbol other than the pairs' occurs in the pairs after `acc` only if in
`acc`. -/
theorem repTree_filter {A : Symbol}
    (hA : A ≠ .auxSymReferenceRepeat1 ∧ A ≠ .anonSymDot ∧ A ≠ .symIdentifier) :
    ∀ (ws : List (List Char)) (acc : Option Subtree) (p : Nat),
      (subtreesList acc.toList).filter (·.symbol == A) = [] →
      (subtreesList (repTree acc p ws).toList).filter (·.symbol == A) = []
  | [], _, _, h => h
  | w :: ws, acc, p, h => by
    refine repTree_filter hA ws _ _ ?_
    have hpair : (pairTree p w).subtrees.filter (·.symbol == A) = [] := by
      simp [pairTree, Subtree.subtrees, subtreesList, Subtree.symbol, Ne.symm hA.1, Ne.symm hA.2.1,
        Ne.symm hA.2.2]
    cases acc with
    | none => simpa [pushPair, subtreesList] using hpair
    | some r =>
      simp only [Option.toList, subtreesList_cons, subtreesList_nil, List.append_nil] at h
      simp only [Option.toList, pushPair, subtreesList_cons, Subtree.subtrees_node,
        subtreesList_nil, List.append_nil, List.filter_cons, List.filter_append, h, hpair,
        Subtree.symbol_node]
      simp [Ne.symm hA.1]

/-- A reference has itself as its one reference node and no binary expression. -/
theorem refTree_filter (tok : Token) (htok : tok.symbol = .symIdentifier) (p : Nat)
    (ws : List (List Char)) :
    (refTree tok (repTree none p ws)).subtrees.filter (·.symbol == .symReference) =
        [refTree tok (repTree none p ws)] ∧
      (refTree tok (repTree none p ws)).subtrees.filter (·.symbol == .symBinaryExpression) = [] := by
  have hrep : ∀ A : Symbol, A = .symReference ∨ A = .symBinaryExpression →
      (subtreesList (repTree none p ws).toList).filter (·.symbol == A) = [] := by
    rintro A (rfl | rfl) <;> exact repTree_filter (by decide) ws none p rfl
  simp only [refTree, Subtree.subtrees_node, subtreesList_cons, Subtree.subtrees_leaf,
    List.filter_cons, List.filter_append, Subtree.symbol_node, Subtree.symbol_leaf, htok,
    hrep _ (.inl rfl), hrep _ (.inr rfl)]
  simp

/-- The reference and binary-expression nodes of an input's tree are those of its value. -/
theorem inputTree_filter {A : Symbol} (hA : A = .symReference ∨ A = .symBinaryExpression)
    (R : Subtree) (e : Nat) :
    (inputTree R e).subtrees.filter (·.symbol == A) = R.subtrees.filter (·.symbol == A) := by
  rcases hA with rfl | rfl <;>
    simp [inputTree, Subtree.subtrees_node, Subtree.subtrees_leaf, subtreesList_cons,
      Subtree.symbol_node, Subtree.symbol_leaf, List.filter_append]

/-- The reference and binary-expression nodes of a variable's tree are those of its
attribute's value. -/
theorem attributeTree_filter {A : Symbol} (hA : A = .symReference ∨ A = .symBinaryExpression)
    (R : Subtree) (e : Nat) :
    (attributeTree R e).subtrees.filter (·.symbol == A) = R.subtrees.filter (·.symbol == A) := by
  rcases hA with rfl | rfl <;>
    simp [attributeTree, Subtree.subtrees_node, Subtree.subtrees_leaf, subtreesList_cons,
      Subtree.symbol_node, Subtree.symbol_leaf, List.filter_append]

/-- The tree `t` has one reference node, whose identifiers spell `segs` in the text `doc`,
and no binary expression. -/
def OneReference (doc : List Char) (t : Subtree) (segs : List (List Char)) : Prop :=
  (∃ R, t.subtrees.filter (·.symbol == .symReference) = [R] ∧
    (R.leaves.filter (·.symbol == .symIdentifier)).map (Token.text doc) = segs) ∧
  t.subtrees.filter (·.symbol == .symBinaryExpression) = []

/-- A tree whose reference and binary-expression nodes are those of the reference over
`i.w₁. … .wₙ`, at `p` in `doc`, has that one reference. -/
theorem oneReference_of_filter {doc i post : List Char} {ws : List (List Char)} {p : Nat}
    (h : doc.drop p = i ++ (dotSegments ws ++ post)) {t : Subtree}
    (ht : ∀ A : Symbol, A = .symReference ∨ A = .symBinaryExpression →
      t.subtrees.filter (·.symbol == A) =
        (refTree ⟨.symIdentifier, p, p + i.length⟩ (repTree none (p + i.length) ws)).subtrees.filter
          (·.symbol == A)) :
    OneReference doc t (i :: ws) := by
  have href := refTree_filter ⟨.symIdentifier, p, p + i.length⟩ rfl (p + i.length) ws
  rw [OneReference, ht _ (.inl rfl), ht _ (.inr rfl)]
  exact ⟨⟨_, href.1, refTree_identifierTexts h⟩, href.2⟩

end TreeSitterTxtx
