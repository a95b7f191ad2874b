import TreeSitterTxtx.Soundness
import TreeSitterTxtx.LexerFacts

/-!
# The tree covers the input

An accepted tree loses nothing of its input but whitespace: its leaves, read in order, are
tokens whose texts follow each other through the input, each after a run of the whitespace
the lexer skips, and the last one, the end of the input, ends it (`accepts_covers`). So the
input is the texts of the leaves, each after its whitespace (`accepts_text`).

Two facts of `ts_lex` make the gaps whitespace. A `SKIP` only happens in the start states
of the modes `0`, `1`, `2`, `6` and `46`, on a space, a tab, a newline or a carriage return,
and loops there; no move on a character leads back into one of these states, nor into the
end-of-input state `47` (`tsLexMove_keepsGap`). So the text the lexer skips before a token
is whitespace, and the end of the input is only read at its end (`tsLex_split`).

The driver then keeps, over every run, that the tokens of its stack cover the input up to
its position (`CoverOk`): a shift adds the lookahead, which lies after whitespace; a
reduction and the end of a comment only regroup the stack's trees; and `ts_parser__accept`
makes a root whose leaves are the stack's and the end of the input.
-/

namespace TreeSitterTxtx

/-! ## What the lexer skips -/

/-- The whitespace the start states skip: `'\t'`, `'\n'`, `'\r'` and `' '`. -/
def isSkipSpace (c : Char) : Bool := c = '\t' ∨ c = '\n' ∨ c = '\r' ∨ c = ' '

/-- The lex states with a `SKIP`: the start states of the modes `0`, `1`, `2`, `6` and
`46`. -/
def isSkipState (s : Nat) : Bool := s == 0 || s == 1 || s == 2 || s == 6 || s == 46

/-- A move from lex state `s` on the character `c` keeps to the way `ts_lex` skips: it skips
only whitespace, staying in a state that skips, and advances neither into a state that
skips nor into the end-of-input state `47`, but into one of the `160` states. -/
def LexMove.keepsGap (s : Nat) (c : Char) : LexMove → Bool
  | .skip t => t == s && isSkipState s && isSkipSpace c
  | .advance t => !isSkipState t && t != 47 && t < 160
  | .stop => true

theorem LexMove.keepsGap_ite (s : Nat) (c : Char) (p : Prop) [Decidable p] (a b : LexMove) :
    (if p then a else b).keepsGap s c = if p then a.keepsGap s c else b.keepsGap s c := by
  split <;> rfl

theorem LexMove.keepsGap_stop (s : Nat) (c : Char) : LexMove.stop.keepsGap s c = true := rfl

theorem LexMove.keepsGap_advance (s t : Nat) (c : Char) :
    (LexMove.advance t).keepsGap s c = (!isSkipState t && t != 47 && t < 160) := rfl

theorem LexMove.keepsGap_skip (s t : Nat) (c : Char) :
    (LexMove.skip t).keepsGap s c = (t == s && isSkipState s && isSkipSpace c) := rfl

/-- **Every move of `ts_lex` on a character keeps to the way it skips.** On the four
whitespace characters each state is computed; on any other character the test of every
state is followed branch by branch, and none of its branches skips. -/
theorem tsLexMove_keepsGap (s : Nat) (c : Char) : (tsLexMove s false c).keepsGap s c = true := by
  by_cases hc : c = '\t' ∨ c = '\n' ∨ c = '\r' ∨ c = ' '
  · have hall : ∀ c ∈ ['\t', '\n', '\r', ' '], ∀ s < 160,
        (tsLexMove s false c).keepsGap s c = true := by
      set_option maxRecDepth 8000 in decide
    rcases Nat.lt_or_ge s 160 with hs | hs
    · exact hall c (by simpa using hc) s hs
    · rw [tsLexMove_of_ge hs]; rfl
  · unfold tsLexMove
    split
    all_goals first
      | rfl
      | unfold tsLexStates0 | unfold tsLexStates1 | unfold tsLexStates2 | unfold tsLexStates3
      | unfold tsLexStates4 | unfold tsLexStates5 | unfold tsLexStates6 | unfold tsLexStates7
      | unfold tsLexStates8 | unfold tsLexStates9
    all_goals split <;> simp only [LexMove.keepsGap_ite, LexMove.keepsGap_stop,
      LexMove.keepsGap_advance, LexMove.keepsGap_skip, hc, if_false, isSkipState, Nat.reduceBEq,
      Nat.reduceBNe, Nat.reduceLT, decide_True, Bool.or_false, Bool.or_true, Bool.not_false,
      Bool.not_true, Bool.and_true, Bool.false_eq_true, ite_self]

/-- Only state `47` accepts the end of the input. -/
theorem tsLexAccept_end {s : Nat} (h : tsLexAccept s = some .tsBuiltinSymEnd) : s = 47 := by
  have hall : ∀ s < 160, tsLexAccept s = some .tsBuiltinSymEnd → s = 47 := by
    set_option maxRecDepth 4000 in decide
  rcases Nat.lt_or_ge s 160 with hs | hs
  · exact hall s hs h
  · simp [tsLexAccept, List.getD_eq_getElem?_getD,
      List.getElem?_eq_none (show tsLexAcceptTable.length ≤ s by simp [tsLexAcceptTable]; omega)]
      at h

/-- No parse state lexes in the end-of-input state. -/
theorem tsLexModes_ne_end (t : Nat) : tsLexModes t ≠ 47 := by
  have hall : ∀ t < 153, tsLexModes t ≠ 47 := by decide
  rcases Nat.lt_or_ge t 153 with ht | ht
  · exact hall t ht
  · simp [tsLexModes, List.getD_eq_getElem?_getD,
      List.getElem?_eq_none (show tsLexModesTable.length ≤ t by simp [tsLexModesTable]; omega)]

/-! ## The gap before a token -/

/-- What the loop keeps, `pre` having been read since `pos0`: the token starts after
whitespace only, nothing has been read since the start while the state can skip, and the
state is not the end of the input. -/
structure GapOk (pos0 : Nat) (pre : List Char) (state start : Nat) : Prop where
  le_start : pos0 ≤ start
  start_le : start ≤ pos0 + pre.length
  gap : (pre.take (start - pos0)).all isSkipSpace = true
  skipping : isSkipState state = true → start = pos0 + pre.length
  not_end : state ≠ 47

/-- A token accepted in the input `input` read from `pos0`: it starts after whitespace only,
and it is the end of the input only with nothing left. -/
def GapLexeme (pos0 : Nat) (input : List Char) (la : Lexeme) : Prop :=
  (input.take (la.1.start - pos0)).all isSkipSpace = true ∧
    (la.1.symbol = .tsBuiltinSymEnd → la.2 = [])

theorem acceptAt_gap {pos0 state start : Nat} {pre input : List Char} {acc : Option Lexeme}
    (hs : start - pos0 ≤ pre.length) (hgap : (pre.take (start - pos0)).all isSkipSpace = true)
    (hend : state = 47 → input = []) (hacc : ∀ la ∈ acc, GapLexeme pos0 (pre ++ input) la) :
    ∀ la ∈ acceptAt state (pos0 + pre.length) start input acc, GapLexeme pos0 (pre ++ input) la := by
  unfold acceptAt
  split
  · next sym hsym =>
    rintro la ⟨⟩
    exact ⟨by rwa [List.take_append_of_le_length hs],
      fun h => hend (tsLexAccept_end (by rw [hsym]; exact congrArg some h))⟩
  · exact hacc

/-- **The loop starts its token after whitespace only.** -/
theorem tsLexRun_gap {pos0 : Nat} :
    ∀ {input pre : List Char} {state start : Nat} {acc : Option Lexeme},
      GapOk pos0 pre state start → (∀ la ∈ acc, GapLexeme pos0 (pre ++ input) la) →
      ∀ la ∈ tsLexRun state (pos0 + pre.length) start acc input, GapLexeme pos0 (pre ++ input) la
  | [], pre, state, start, acc, hg, hacc => by
    have hs : start - pos0 ≤ pre.length := by have := hg.start_le; omega
    have h1 := @acceptAt_gap _ state _ _ [] _ hs hg.gap (fun _ => rfl) hacc
    unfold tsLexRun
    split
    all_goals first
      | exact h1
      | exact acceptAt_gap hs hg.gap (fun _ => rfl) h1
  | c :: rest, pre, state, start, acc, hg, hacc => by
    have hs : start - pos0 ≤ pre.length := by have := hg.start_le; omega
    have h1 := acceptAt_gap hs hg.gap (fun h => absurd h hg.not_end) hacc
    have happ : pre ++ c :: rest = (pre ++ [c]) ++ rest := by simp
    have hlen : pos0 + (pre ++ [c]).length = pos0 + pre.length + 1 := by simp; omega
    have hok := tsLexMove_keepsGap state c
    unfold tsLexRun
    split
    · next t ht =>
      -- an advance reads `c` into the token
      rw [ht, LexMove.keepsGap_advance] at hok
      simp only [Bool.and_eq_true, Bool.not_eq_true', bne_iff_ne, ne_eq] at hok
      rw [happ, ← hlen]
      refine tsLexRun_gap ⟨hg.le_start, by simp; have := hg.start_le; omega, ?_,
        fun h => absurd h (by rw [hok.1.1]; decide), hok.1.2⟩ (happ ▸ h1)
      rw [List.take_append_of_le_length hs]; exact hg.gap
    · next t ht =>
      -- a skip moves the token's start past `c`, which is whitespace
      rw [ht, LexMove.keepsGap_skip] at hok
      simp only [Bool.and_eq_true, beq_iff_eq] at hok
      obtain ⟨⟨rfl, hskip⟩, hc⟩ := hok
      have hstart := hg.skipping hskip
      rw [happ, ← hlen]
      refine tsLexRun_gap ⟨by omega, Nat.le_refl _, ?_, fun _ => rfl, hg.not_end⟩ (happ ▸ h1)
      have hpre := hg.gap
      rw [hstart, Nat.add_sub_cancel_left, List.take_length] at hpre
      rw [hlen, Nat.add_assoc, Nat.add_sub_cancel_left, List.take_of_length_le (by simp),
        List.all_append, hpre]
      simpa using hc
    · exact h1

/-- **The lexer's token lies after whitespace.** The input is the whitespace skipped, the
token's text and the input left; and the end of the input leaves nothing. -/
theorem tsLex_split {mode pos : Nat} {input rest : List Char} {tok : Token} (hm : mode ≠ 47)
    (h : tsLex mode pos input = some (tok, rest)) :
    ∃ ws u, input = ws ++ u ++ rest ∧ ws.all isSkipSpace = true ∧ tok.start = pos + ws.length ∧
      tok.stop = tok.start + u.length ∧ (tok.symbol = .tsBuiltinSymEnd → rest = []) := by
  obtain ⟨h1, h2, h3, hrest⟩ := tsLex_span h
  obtain ⟨hgap, hend⟩ := @tsLexRun_gap pos input [] mode pos none
    ⟨Nat.le_refl _, by simp, by simp, fun _ => by simp, hm⟩ (by simp) (tok, rest)
    (by simpa [tsLex] using h)
  simp only [List.nil_append] at hgap hrest
  dsimp only at h1 h2 h3 hrest hgap hend
  refine ⟨input.take (tok.start - pos), (input.drop (tok.start - pos)).take (tok.stop - tok.start),
    ?_, hgap, ?_, ?_, hend⟩
  · have hdrop : input.drop (tok.stop - pos) =
        (input.drop (tok.start - pos)).drop (tok.stop - tok.start) := by
      rw [List.drop_drop]; congr 1; omega
    rw [hrest, hdrop, List.append_assoc, List.take_append_drop, List.take_append_drop]
  · rw [List.length_take]; omega
  · rw [List.length_take, List.length_drop]; omega

/-! ## Tokens that cover a text -/

/-- `toks` are the tokens of the text `input`, which starts at position `pos`, read to its
end: each after whitespace the lexer skips, each spanning its own text. -/
inductive Covers : Nat → List Char → List Token → Prop
  | nil (pos : Nat) : Covers pos [] []
  | cons {pos : Nat} {ws u rest : List Char} {tok : Token} {toks : List Token} :
      ws.all isSkipSpace = true → tok.start = pos + ws.length → tok.stop = tok.start + u.length →
      Covers tok.stop rest toks → Covers pos (ws ++ u ++ rest) (tok :: toks)

/-- A token read after the text covered, after whitespace, extends the cover. -/
theorem Covers.snoc {pos : Nat} {pre : List Char} {toks : List Token} (h : Covers pos pre toks) :
    ∀ {ws u : List Char} {tok : Token}, ws.all isSkipSpace = true →
      tok.start = pos + pre.length + ws.length → tok.stop = tok.start + u.length →
      Covers pos (pre ++ (ws ++ u)) (toks ++ [tok]) := by
  induction h with
  | nil pos =>
    intro ws u tok hws hstart hstop
    simpa using Covers.cons hws (by simpa using hstart) hstop (.nil tok.stop)
  | @cons pos ws' u' rest tok' toks hws' hs' ht' _ ih =>
    intro ws u tok hws hstart hstop
    rw [List.append_assoc (ws' ++ u'), List.cons_append]
    refine .cons hws' hs' ht' (ih hws ?_ hstop)
    simp only [List.length_append] at hstart
    omega

/-- Covering tokens end within the text they cover. -/
theorem Covers.stop_le {pos : Nat} {input : List Char} {toks : List Token}
    (h : Covers pos input toks) : ∀ tok ∈ toks, tok.stop ≤ pos + input.length := by
  induction h with
  | nil => simp
  | @cons pos ws u rest tok toks _ hs ht _ ih =>
    rintro t (_ | ⟨_, hmem⟩)
    · simp only [List.length_append]; omega
    · have := ih t hmem
      simp only [List.length_append]; omega

/-- The texts of covering tokens, each after its whitespace, make the text they cover, in a
document `doc` that has it from `pos` on. -/
theorem Covers.text {doc : List Char} :
    ∀ {pos : Nat} {input : List Char} {toks : List Token}, Covers pos input toks →
      doc.drop pos = input →
      ∃ gaps : List (List Char), gaps.length = toks.length ∧
        (∀ g ∈ gaps, g.all isSkipSpace = true) ∧
        input = (List.zipWith (fun g tok => g ++ tok.text doc) gaps toks).flatten
  | _, _, _, .nil _, _ => ⟨[], rfl, by simp, rfl⟩
  | pos, _, _, @Covers.cons _ ws u rest tok toks hws hs ht hc, hdoc => by
    have hfrom : doc.drop tok.start = u ++ rest := by
      rw [hs, ← List.drop_drop, hdoc, List.append_assoc, List.drop_left]
    have htext : tok.text doc = u := by
      rw [Token.text, hfrom, ht, Nat.add_sub_cancel_left, List.take_left]
    have hrest : doc.drop tok.stop = rest := by
      rw [ht, ← List.drop_drop, hfrom, List.drop_left]
    obtain ⟨gaps, hlen, hgaps, heq⟩ := Covers.text hc hrest
    refine ⟨ws :: gaps, by simp [hlen], ?_, ?_⟩
    · rintro g (_ | ⟨_, hg⟩)
      exacts [hws, hgaps g hg]
    · rw [List.zipWith_cons_cons, List.flatten_cons, htext, ← heq, List.append_assoc]

/-! ## The tokens of the stack -/

/-- The tokens of the stack's trees, from the bottom of the stack. -/
def stackLeaves (σ : List StackEntry) : List Token := leavesList (σ.map (·.tree)).reverse

theorem mem_stackLeaves {σ : List StackEntry} {e : StackEntry} {tok : Token} (he : e ∈ σ)
    (htok : tok ∈ e.tree.leaves) : tok ∈ stackLeaves σ :=
  mem_leavesList.2 ⟨e.tree, List.mem_reverse.2 (List.mem_map_of_mem _ he), htok⟩

theorem stackLeaves_cons (e : StackEntry) (σ : List StackEntry) :
    stackLeaves (e :: σ) = stackLeaves σ ++ e.tree.leaves := by
  simp [stackLeaves, leavesList_append, leavesList_cons]

/-- **A reduction keeps the stack's tokens**: it groups the trees it pops under one node, and
pushes the extra trees that ended them back above it. -/
theorem reduce_stackLeaves {σ σ'' : List StackEntry} {A : Symbol} {n pid : Nat}
    {endOfExtra : Bool} (hr : reduce σ A n pid endOfExtra = some σ'') :
    stackLeaves σ'' = stackLeaves σ := by
  obtain ⟨⟨ts, σ'⟩, hp, rfl⟩ := Option.map_eq_some'.1 hr
  obtain ⟨pre, rfl, hpre⟩ := popCount_split hp
  have hsplit := splitTrailingExtras_append ts
  simp only [stackLeaves, List.map_append, List.map_cons, List.map_map, List.reverse_append,
    List.reverse_cons, leavesList_append, leavesList_cons, Subtree.leaves, leavesList_nil,
    List.append_nil, Function.comp_def, List.map_id', List.reverse_reverse, ← List.map_reverse,
    hpre]
  rw [List.append_assoc, ← leavesList_append, hsplit]

/-- In the accepting state `142`, the topmost entry that is not extra holds a `runbook`
node, and only extra entries are above it. -/
theorem topmost_runbook {σ : List StackEntry} (hσ : StackOk σ) (htrees : ∀ e ∈ σ, TreeOk e.tree)
    (h142 : topState σ = 142) :
    ∃ top e rest, σ = top ++ e :: rest ∧ (∀ x ∈ top, x.tree.extra = true) ∧
      ∃ pid cs, e.tree = .node .symRunbook pid false cs := by
  obtain ⟨top, e, rest, rfl, htop, -, hx, hedge⟩ := topmost_nonExtra hσ (by omega)
  have hsym := ((edge_into_start hedge).2 h142).2
  refine ⟨top, e, rest, rfl, htop, ?_⟩
  have he := htrees e (by simp)
  rw [TreeOk, hx, if_neg Bool.false_ne_true] at he
  cases hT : e.tree with
  | leaf tok' b =>
    rw [hT] at hsym he
    have hd := he.2.1
    simp only [Subtree.symbol] at hsym
    rw [Subtree.eraseComments, Derives, hsym] at hd
    cases hd
  | node A pid b cs =>
    rw [hT] at hsym hx
    exact ⟨pid, cs, by rw [show A = .symRunbook from hsym, show b = false from hx]⟩

/-- The root `ts_parser__accept` builds has the stack's tokens, then the end of the
input. -/
theorem acceptRoot_leaves {σ : List StackEntry} {tok : Token} {root : Subtree}
    (hσ : StackOk σ) (htrees : ∀ e ∈ σ, TreeOk e.tree) (h142 : topState σ = 142)
    (hr : acceptRoot (.leaf tok true :: σ.map (·.tree)) [] = some root) :
    root.leaves = stackLeaves σ ++ [tok] := by
  obtain ⟨top, e, rest, rfl, htop, pid, cs, he⟩ := topmost_runbook hσ htrees h142
  rw [show Subtree.leaf tok true :: (top ++ e :: rest).map (·.tree) =
      (Subtree.leaf tok true :: top.map (·.tree)) ++ e.tree :: rest.map (·.tree) by simp,
    acceptRoot_extras (by rw [he]; rfl) (by
      rintro t (_ | ⟨_, ht⟩)
      · rfl
      · obtain ⟨x, hx, rfl⟩ := List.mem_map.1 ht
        exact htop x hx)] at hr
  cases hr
  simp [stackLeaves, he, Subtree.leaves, Subtree.children, leavesList_append, leavesList_cons]

/-! ## The invariant of a run -/

/-- What a run over `input` keeps: the input left is the input after the position, the
stack's tokens cover the input before it, and a lookahead was read after whitespace, the
end of the input only at the end. -/
structure CoverOk (input : List Char) (c : Config) : Prop where
  input_eq : c.input = input.drop c.pos
  pos_le : c.pos ≤ input.length
  covers : Covers 0 (input.take c.pos) (stackLeaves c.stack)
  lookahead : ∀ tok rest, c.lookahead = some (tok, rest) →
    ∃ ws u, c.input = ws ++ u ++ rest ∧ ws.all isSkipSpace = true ∧
      tok.start = c.pos + ws.length ∧ tok.stop = tok.start + u.length ∧
      (tok.symbol = .tsBuiltinSymEnd → rest = [])

theorem coverOk_init (input : List Char) : CoverOk input (Config.init input) :=
  ⟨rfl, Nat.zero_le _, by simpa [stackLeaves] using Covers.nil 0, by simp [Config.init]⟩

/-- **Every step keeps the cover.** -/
theorem step_coverOk {input : List Char} {c c' : Config} (hc : CoverOk input c)
    (h : step c = .next c') : CoverOk input c' := by
  rcases step_cases h with ⟨-, -, la, hx, rfl⟩ | ⟨tok, rest, s, hl, -, rfl⟩ |
    ⟨_, _, _, _, _, stack, hl, -, hr, rfl⟩ | ⟨_, _, _, stack, hl, -, -, hr, rfl⟩
  · -- lexing: the lookahead lies after whitespace
    refine ⟨hc.input_eq, hc.pos_le, hc.covers, ?_⟩
    rintro tok rest ⟨⟩
    exact tsLex_split (tsLexModes_ne_end _) hx
  · -- a shift adds the lookahead to the stack's tokens
    obtain ⟨ws, u, hin, hws, hstart, hstop, -⟩ := hc.lookahead tok rest hl
    have hpos : (input.take c.pos).length = c.pos := List.length_take_of_le hc.pos_le
    have hsplit : input = input.take c.pos ++ (ws ++ u) ++ rest := by
      rw [List.append_assoc _ (ws ++ u), ← hin, hc.input_eq, List.take_append_drop]
    have hlen : (input.take c.pos ++ (ws ++ u)).length = tok.stop := by
      simp only [List.length_append, hpos, hstop, hstart]; omega
    refine ⟨?_, ?_, ?_, by simp⟩
    · show rest = input.drop tok.stop
      conv_rhs => rw [hsplit]
      rw [List.drop_left' hlen]
    · show tok.stop ≤ input.length
      rw [← hlen]; conv_rhs => rw [hsplit]
      simp
    · show Covers 0 (input.take tok.stop) _
      conv => arg 2; rw [hsplit]
      rw [List.take_left' hlen, stackLeaves_cons]
      exact hc.covers.snoc hws (by rw [hpos]; omega) hstop
  · -- a reduction regroups the stack's trees
    exact ⟨hc.input_eq, hc.pos_le, by rw [reduce_stackLeaves hr]; exact hc.covers, hc.lookahead⟩
  · -- the end of a comment too
    exact ⟨hc.input_eq, hc.pos_le, by rw [reduce_stackLeaves hr]; exact hc.covers, hc.lookahead⟩

/-- **The invariants of a run**: every configuration a run reaches has a well-formed stack,
trees and lookahead, and its stack's tokens cover the input before its position. -/
theorem reachable_ok {input : List Char} {c : Config} (h : Reaches (Config.init input) c) :
    ConfigOk c ∧ CoverOk input c :=
  ⟨h.invariant (fun _ _ => step_configOk) (configOk_init input),
    h.invariant (fun _ _ => step_coverOk) (coverOk_init input)⟩

/-- The configuration after lexing `input` in `input "k" = 1`. -/
theorem reachable_ok_input :
    Reaches (Config.init "input \"k\" = 1".toList)
        ⟨[], 0, "input \"k\" = 1".toList, some (⟨.anonSymInput, 0, 5⟩, " \"k\" = 1".toList)⟩ ∧
      ConfigOk ⟨[], 0, "input \"k\" = 1".toList, some (⟨.anonSymInput, 0, 5⟩, " \"k\" = 1".toList)⟩ ∧
      CoverOk "input \"k\" = 1".toList
        ⟨[], 0, "input \"k\" = 1".toList, some (⟨.anonSymInput, 0, 5⟩, " \"k\" = 1".toList)⟩ :=
  have h : Reaches (Config.init "input \"k\" = 1".toList)
      ⟨[], 0, "input \"k\" = 1".toList, some (⟨.anonSymInput, 0, 5⟩, " \"k\" = 1".toList)⟩ :=
    .head (by rfl) (.refl _)
  ⟨h, reachable_ok h⟩

/-- **An accepted tree covers its input.** Its leaves, in order, are tokens whose texts
follow each other through the input, each after whitespace the lexer skips, the last one
the end of the input. -/
theorem accepts_covers {input : List Char} {t : Subtree} (h : Accepts input t) :
    Covers 0 input t.leaves := by
  obtain ⟨c, hreach, hstep⟩ := h.exists_reaches
  have hcov := hreach.invariant (fun _ _ => step_coverOk) (coverOk_init input)
  have hok := hreach.invariant (fun _ _ => step_configOk) (configOk_init input)
  obtain ⟨tok, rest, hl, ha, hr⟩ := step_accepted hstep
  obtain ⟨h142, hend⟩ := accept_state ha
  obtain ⟨ws, u, hin, hws, hstart, hstop, hlast⟩ := hcov.lookahead tok rest hl
  cases hlast hend
  rw [acceptRoot_leaves hok.stack hok.trees h142 hr, ← List.take_append_drop c.pos input,
    ← hcov.input_eq, hin, List.append_nil]
  exact hcov.covers.snoc hws
    (by rw [hstart, List.length_take, Nat.min_eq_left hcov.pos_le]; simp) hstop

/-- **No lex state reads a NUL character**: in the middle of the input, `'\0'` stops every
state of `ts_lex`. -/
theorem tsLexMove_nul (s : Nat) : tsLexMove s false '\x00' = .stop := by
  have hall : ∀ s < 160, tsLexMove s false '\x00' = .stop := by
    set_option maxRecDepth 4000 in decide
  rcases Nat.lt_or_ge s 160 with hs | hs
  · exact hall s hs
  · exact tsLexMove_of_ge hs false _

/-- A lexer result for the input `input` read from `pos0` whose text up to the token's end
holds no NUL. -/
def NulFreeLexeme (pos0 : Nat) (input : List Char) (la : Lexeme) : Prop :=
  '\x00' ∉ input.take (la.1.stop - pos0)

theorem acceptAt_nulFree {pos0 state start : Nat} {pre input : List Char} {acc : Option Lexeme}
    (hpre : '\x00' ∉ pre) (hacc : ∀ la ∈ acc, NulFreeLexeme pos0 (pre ++ input) la) :
    ∀ la ∈ acceptAt state (pos0 + pre.length) start input acc,
      NulFreeLexeme pos0 (pre ++ input) la := by
  unfold acceptAt
  split
  · rintro la ⟨⟩
    simpa [NulFreeLexeme] using hpre
  · exact hacc

/-- **The loop reads no NUL**: what it has read when it accepts a token holds none. -/
theorem tsLexRun_nulFree {pos0 : Nat} :
    ∀ {input pre : List Char} {state start : Nat} {acc : Option Lexeme}, '\x00' ∉ pre →
      (∀ la ∈ acc, NulFreeLexeme pos0 (pre ++ input) la) →
      ∀ la ∈ tsLexRun state (pos0 + pre.length) start acc input, NulFreeLexeme pos0 (pre ++ input) la
  | [], pre, state, start, acc, hpre, hacc => by
    have h1 := @acceptAt_nulFree pos0 state start pre [] acc hpre hacc
    unfold tsLexRun
    split
    all_goals first
      | exact h1
      | exact acceptAt_nulFree hpre h1
  | c :: rest, pre, state, start, acc, hpre, hacc => by
    have h1 := @acceptAt_nulFree pos0 state start pre (c :: rest) acc hpre hacc
    have happ : pre ++ c :: rest = (pre ++ [c]) ++ rest := by simp
    have hlen : pos0 + (pre ++ [c]).length = pos0 + pre.length + 1 := by simp; omega
    -- a character the loop moves on is no NUL
    have hread : ∀ {m : LexMove}, tsLexMove state false c = m → m ≠ .stop → '\x00' ∉ pre ++ [c] := by
      rintro m hm hstop h
      rcases List.mem_append.1 h with h | h
      · exact hpre h
      · rw [← List.mem_singleton.1 h, tsLexMove_nul] at hm
        exact hstop hm.symm
    unfold tsLexRun
    split
    · next t ht =>
      rw [happ, ← hlen]
      exact tsLexRun_nulFree (hread ht LexMove.noConfusion) (happ ▸ h1)
    · next t ht =>
      rw [happ, ← hlen]
      exact tsLexRun_nulFree (hread ht LexMove.noConfusion) (happ ▸ h1)
    · exact h1

/-- The input a run has read holds no NUL: neither before its position nor up to the end of
its lookahead. -/
def NulFree (x : List Char) (c : Config) : Prop :=
  '\x00' ∉ x.take c.pos ∧ ∀ tok rest, c.lookahead = some (tok, rest) → '\x00' ∉ x.take tok.stop

/-- **Every step keeps the input read free of NUL.** -/
theorem step_nulFree {x : List Char} {c c' : Config} (hc : CoverOk x c) (hn : NulFree x c)
    (h : step c = .next c') : NulFree x c' := by
  rcases step_cases h with ⟨-, -, la, hx, rfl⟩ | ⟨tok, rest, s, hl, -, rfl⟩ |
    ⟨_, _, _, _, _, stack, hl, -, -, rfl⟩ | ⟨_, _, _, stack, -, -, -, -, rfl⟩
  · -- lexing reads on from the position
    refine ⟨hn.1, ?_⟩
    rintro tok rest ⟨⟩
    obtain ⟨hstart, hss, -⟩ : c.pos ≤ tok.start ∧ tok.start ≤ tok.stop ∧ _ := tsLex_span hx
    have hlex := @tsLexRun_nulFree c.pos c.input [] _ c.pos none (List.not_mem_nil _) (by simp)
      (tok, rest) (by simpa [tsLex] using hx)
    rw [NulFreeLexeme, List.nil_append, hc.input_eq] at hlex
    rw [show tok.stop = c.pos + (tok.stop - c.pos) by omega, List.take_add, List.mem_append,
      not_or]
    exact ⟨hn.1, hlex⟩
  · -- a shift moves the position to the end of the lookahead
    exact ⟨hn.2 tok rest hl, by simp⟩
  · exact hn
  · exact hn

/-- **No accepted input holds a NUL character.** -/
theorem accepts_noNul {x : List Char} {t : Subtree} (h : Accepts x t) : '\x00' ∉ x := by
  obtain ⟨c, hreach, hstep⟩ := h.exists_reaches
  obtain ⟨hcov, hnul⟩ := hreach.invariant (P := fun c => CoverOk x c ∧ NulFree x c)
    (fun _ _ h hs => ⟨step_coverOk h.1 hs, step_nulFree h.1 h.2 hs⟩)
    ⟨coverOk_init x, by simp [NulFree, Config.init]⟩
  obtain ⟨tok, rest, hl, ha, -⟩ := step_accepted hstep
  obtain ⟨-, hend⟩ := accept_state ha
  obtain ⟨ws, u, hin, -, hstart, hstop, hlast⟩ := hcov.lookahead tok rest hl
  cases hlast hend
  -- the end of the input is read at the end of the input
  have hlen : tok.stop = x.length := by
    have := congrArg List.length hin
    rw [hcov.input_eq] at this
    simp only [List.length_drop, List.length_append, List.length_nil, Nat.add_zero] at this
    have := hcov.pos_le
    omega
  simpa [hlen] using hnul.2 tok [] hl

/-- A comment alone, `# c` and a newline. -/
theorem accepts_noNul_comment :
    Accepts ['#', ' ', 'c', '\n']
        (.node .symRunbook 0 false [.node .symComment 0 true [.leaf ⟨.anonSymPound, 0, 1⟩ false,
          .leaf ⟨.auxSymCommentToken1, 1, 3⟩ false], .leaf ⟨.tsBuiltinSymEnd, 4, 4⟩ true]) ∧
      '\x00' ∉ ['#', ' ', 'c', '\n'] :=
  have h : Accepts ['#', ' ', 'c', '\n']
      (.node .symRunbook 0 false [.node .symComment 0 true [.leaf ⟨.anonSymPound, 0, 1⟩ false,
        .leaf ⟨.auxSymCommentToken1, 1, 3⟩ false], .leaf ⟨.tsBuiltinSymEnd, 4, 4⟩ true]) :=
    ⟨8, rfl⟩
  ⟨h, accepts_noNul h⟩

end TreeSitterTxtx
