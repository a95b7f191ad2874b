import TreeSitterTxtx.Soundness
import TreeSitterTxtx.LexerFacts

/-!
# Termination

The driver stops on every input (`parse_halts`). Each step that goes on lowers the pair of
the length of the input left and a `potential` of the configuration, in lexicographic
order (`step_decreases`):

* lexing sets the lookahead, which the potential counts `1` less than none;
* a shift consumes its token; a token of width zero consumes nothing, but the states it is
  shifted from rank more than `4` above the states it leads to (`zeroWidth_shift_rank`);
* a reduction lowers the rank of the top state by more than it adds in entries
  (`reduce_ok`, `commentReduce_ok`).

Tokens of width zero can be shifted twice with no byte read in between: after `##` the
empty content of the inner comment is shifted, its comment ends, and the empty content of
the outer one is shifted at the same position (`emptyToken_shifted_twice`).
-/

namespace TreeSitterTxtx

/-! ## Tokens of width zero -/

/-- The symbols some lex mode accepts with width zero: the end of the input, the empty
content of a string and the empty content of a line comment. -/
def zeroWidthTokens : List Symbol :=
  [.tsBuiltinSymEnd, .auxSymStringToken1, .auxSymStringToken2, .auxSymCommentToken1]

set_option maxRecDepth 4000 in
/-- The lex modes of the parse states accept no other symbol with width zero. -/
theorem zeroWidthSymbols_mem {t : Nat} {X : Symbol} (h : X ∈ zeroWidthSymbols (tsLexModes t)) :
    X ∈ zeroWidthTokens := by
  have hall : ∀ t < 153, ∀ X ∈ zeroWidthSymbols (tsLexModes t), X ∈ zeroWidthTokens := by
    decide
  rcases Nat.lt_or_ge t 153 with ht | ht
  · exact hall t ht X h
  · have h0 : tsLexModes t = 0 := by
      simp [tsLexModes, List.getD_eq_getElem?_getD,
        List.getElem?_eq_none (show tsLexModesTable.length ≤ t from ht)]
    have h00 : tsLexModes 0 = 0 := rfl
    exact hall 0 (by decide) X (by rw [h00, ← h0]; exact h)

/-- The check of a state: a shift of a token of width zero lowers the rank by more than
`4`. -/
def zeroWidthShiftOk (t : Nat) : Bool :=
  zeroWidthTokens.all fun X =>
    match effectiveAction (tsLanguageActions t X) with
    | some (.shift s) => decide (rank s + 4 < rank t)
    | _ => true

set_option maxRecDepth 8000 in
theorem zeroWidthShiftOk_all : ∀ t < 153, zeroWidthShiftOk t = true := by decide

/-- **A shift of a token of width zero lowers the rank by more than `4`.** -/
theorem zeroWidth_shift_rank {t s : Nat} {X : Symbol} (hX : X ∈ zeroWidthTokens)
    (h : effectiveAction (tsLanguageActions t X) = some (.shift s)) : rank s + 4 < rank t := by
  have hl : tsLanguageLookup t X ≠ 0 := by
    intro h0
    rw [tsLanguageActions, h0, effectiveAction_actionsAt_zero] at h
    cases h
  have hlt : t < 153 := by
    rcases Nat.lt_or_ge t 153 with h' | h'
    · exact h'
    · have := tsLanguageLookup_mem hl
      rw [tableRow_of_ge h'] at this; cases this
  have := List.all_eq_true.1 (zeroWidthShiftOk_all t hlt) X hX
  rw [h] at this
  simpa using this

/-- A shift of a token of width zero at position `p`. -/
def ShiftsEmptyAt (p : Nat) (c : Config) : Prop :=
  ∃ tok rest s, c.lookahead = some (tok, rest) ∧ tok.start = p ∧ tok.stop = p ∧
    effectiveAction (tsLanguageActions (topState c.stack) tok.symbol) = some (.shift s)

/-- On `##` and a newline, the empty content of a line comment is shifted at position `2`,
and after the inner comment ends, the empty content of the outer one is shifted at the same
position. -/
theorem emptyToken_shifted_twice :
    ∃ c₁ c₂ c₃, Reaches (Config.init "##\n".toList) c₁ ∧ ShiftsEmptyAt 2 c₁ ∧
      step c₁ = .next c₂ ∧ Reaches c₂ c₃ ∧ ShiftsEmptyAt 2 c₃ :=
  ⟨⟨[⟨143, .leaf ⟨.anonSymPound, 1, 2⟩ false⟩, ⟨143, .leaf ⟨.anonSymPound, 0, 1⟩ false⟩], 2,
      "\n".toList, some (⟨.auxSymCommentToken1, 2, 2⟩, "\n".toList)⟩,
    ⟨[⟨152, .leaf ⟨.auxSymCommentToken1, 2, 2⟩ false⟩, ⟨143, .leaf ⟨.anonSymPound, 1, 2⟩ false⟩,
      ⟨143, .leaf ⟨.anonSymPound, 0, 1⟩ false⟩], 2, "\n".toList, none⟩,
    ⟨[⟨143, .node .symComment 0 true [.leaf ⟨.anonSymPound, 1, 2⟩ false,
        .leaf ⟨.auxSymCommentToken1, 2, 2⟩ false]⟩, ⟨143, .leaf ⟨.anonSymPound, 0, 1⟩ false⟩],
      2, "\n".toList, some (⟨.auxSymCommentToken1, 2, 2⟩, "\n".toList)⟩,
    Reaches.of_stepN 5 rfl, ⟨_, _, 152, rfl, rfl, rfl, rfl⟩, rfl,
    Reaches.of_stepN 2 rfl, ⟨_, _, 152, rfl, rfl, rfl, rfl⟩⟩

/-! ## The lookahead -/

/-- The lookahead was lexed where the configuration stands: it lies in the input left, and
if it has width zero, some lex mode accepts its symbol with width zero. -/
def LookaheadFits (c : Config) : Prop :=
  ∀ la, c.lookahead = some la →
    LexSpan c.pos c.input la ∧ (la.1.stop = c.pos → la.1.symbol ∈ zeroWidthTokens)

theorem lookaheadFits_init (input : List Char) : LookaheadFits (Config.init input) := by
  simp [LookaheadFits, Config.init]

theorem step_lookaheadFits {c c' : Config} (hf : LookaheadFits c) (h : step c = .next c') :
    LookaheadFits c' := by
  rcases step_cases h with ⟨-, -, la, hx, rfl⟩ | ⟨tok, rest, s, -, -, rfl⟩ |
    ⟨tok, rest, A, n, pid, σ'', -, -, -, rfl⟩ | ⟨A, n, pid, σ'', hl, -, -, -, rfl⟩
  · rintro _ ⟨⟩
    exact ⟨tsLex_span hx, fun hstop => zeroWidthSymbols_mem (tsLex_zeroWidth hx hstop)⟩
  · rintro _ ⟨⟩
  · exact hf
  · intro la h'
    simp only [hl] at h'
    cases h'

/-! ## The measure -/

/-- The potential of a configuration: `3` for each stack entry that is not extra, the rank
of the top state, and `1` while there is no lookahead. -/
def potential (c : Config) : Nat :=
  3 * entryCount c.stack + rank (topState c.stack) + if c.lookahead.isSome then 0 else 1

/-- **Every step lowers the measure**: the input left, or with the same input left, the
potential. -/
theorem step_decreases {c c' : Config} (hc : ConfigOk c) (hf : LookaheadFits c)
    (h : step c = .next c') :
    c'.input.length < c.input.length ∨
      c'.input.length = c.input.length ∧ potential c' < potential c := by
  rcases step_cases h with ⟨hl, -, la, -, rfl⟩ | ⟨tok, rest, s, hl, ha, rfl⟩ |
    ⟨tok, rest, A, n, pid, σ'', hl, ha, hr, rfl⟩ | ⟨A, n, pid, σ'', hl, hm, ha, hr, rfl⟩
  · -- lex
    right
    simp [potential, hl]
  · -- shift: the token is consumed, or has width zero and lowers the rank
    obtain ⟨⟨hstart, hle, hstop, hrest⟩, hzero⟩ := hf _ hl
    simp only at hstart hle hstop hrest hzero
    subst hrest
    rcases Nat.lt_or_ge c.pos tok.stop with hlt | hge
    · left
      simp only [List.length_drop]
      omega
    · right
      have hpos : tok.stop = c.pos := by omega
      have := zeroWidth_shift_rank (hzero hpos) ha
      refine ⟨by simp [hpos], ?_⟩
      simp only [potential, entryCount, List.map_cons, hl, Option.isSome_some, Option.isSome_none,
        if_true, if_false, Bool.false_eq_true, topState_cons]
      rw [show StackEntry.tree ⟨s, .leaf tok false⟩ :: c.stack.map (·.tree) =
        [.leaf tok false] ++ c.stack.map (·.tree) from rfl, nonExtra_append]
      simp [nonExtra, Subtree.extra]
      omega
  · -- reduce for the lookahead
    right
    obtain ⟨htok, hm⟩ := hc.lookahead _ hl
    have h151 : topState c.stack ≠ 151 := fun h => hm (by rw [h]; rfl)
    have h152 : topState c.stack ≠ 152 := fun h => hm (by rw [h]; rfl)
    obtain ⟨hcomm, hcert⟩ := reduce_certified htok ha h151 h152
    obtain ⟨-, -, -, hrank, hcount⟩ := reduce_ok hc.stack hc.trees hcomm hcert hr
    refine ⟨rfl, ?_⟩
    simp only [potential, hl]
    omega
  · -- the end of a comment
    right
    obtain ⟨rfl, ht⟩ := endOfComment_action (noLexState_states hm) ha
    obtain ⟨-, -, hrank, hcount⟩ := commentReduce_ok hc.stack hc.trees ht hr
    refine ⟨rfl, ?_⟩
    simp only [potential, hl]
    omega

/-- From a configuration that keeps the invariants, the driver stops. -/
theorem halts_from (c : Config) (hc : ConfigOk c) (hf : LookaheadFits c) :
    ∃ fuel, run fuel c ≠ .outOfFuel := by
  cases hs : step c with
  | next c' =>
    obtain ⟨fuel, hfuel⟩ := halts_from c' (step_configOk hc hs) (step_lookaheadFits hf hs)
    exact ⟨fuel + 1, by rw [run, hs]; exact hfuel⟩
  | accepted t => exact ⟨1, by simp [run, hs]⟩
  | failed => exact ⟨1, by simp [run, hs]⟩
termination_by (c.input.length, potential c)
decreasing_by
  rcases step_decreases hc hf hs with hlt | ⟨heq, hlt⟩
  · exact Prod.Lex.left _ _ hlt
  · rw [heq]; exact Prod.Lex.right _ hlt

/-- **The driver halts on every input.** -/
theorem parse_halts (input : List Char) : ∃ fuel, parse fuel input ≠ .outOfFuel :=
  halts_from _ (configOk_init input) (lookaheadFits_init input)

end TreeSitterTxtx
