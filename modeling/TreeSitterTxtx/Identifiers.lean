import Mathlib.Tactic.IntervalCases
import Mathlib.Tactic.SplitIfs
import TreeSitterTxtx.Content

/-!
# Identifiers and keywords

The lex modes `0`, `1` and `2` read an identifier run `[A-Za-z_][A-Za-z0-9_]*` to its end
(`lex_identifierRun`). From the start state a letter or `_` leads into `identStates`, the
states of the keyword trie and the identifier state `140`. These states are closed under the
identifier characters, stop on every other character (`identMoveOk`), and each accepts the
identifier, `true`, `false`, `null` or a statement keyword (`identStates_accept`). So the
token is the whole run, and a keyword only when the run is one.

Mode `46`, the mode of the parse states in which no identifier can come, has the keyword
trie without the identifier state, and cuts a keyword from a longer run
(`keyword_cut_from_identifier`).
-/

namespace TreeSitterTxtx

/-! ## Characters -/

theorem char_le_iff (a b : Char) : a ≤ b ↔ a.toNat ≤ b.toNat := Iff.rfl

theorem char_eq_iff (a b : Char) : a = b ↔ a.toNat = b.toNat :=
  ⟨congrArg _, fun h => Char.ext (UInt32.eq_of_val_eq (Fin.ext h))⟩

/-- The identifier characters by code point. -/
theorem isIdentChar_eq (c : Char) : isIdentChar c = decide ((48 ≤ c.toNat ∧ c.toNat ≤ 57) ∨
    (65 ≤ c.toNat ∧ c.toNat ≤ 90) ∨ (97 ≤ c.toNat ∧ c.toNat ≤ 122) ∨ c.toNat = 95) := by
  rw [Bool.eq_iff_iff, decide_eq_true_iff]
  simp only [isIdentChar, Char.isAlphanum, Char.isAlpha, Char.isDigit, Char.isUpper,
    Char.isLower, Bool.or_eq_true, Bool.and_eq_true, decide_eq_true_eq, beq_iff_eq, char_eq_iff,
    ge_iff_le, UInt32.le_def, BitVec.le_def, Char.toNat, UInt32.toNat]
  simp
  omega

/-- The characters that start an identifier by code point. -/
theorem isIdentStart_eq (c : Char) : isIdentStart c = decide ((65 ≤ c.toNat ∧ c.toNat ≤ 90) ∨
    (97 ≤ c.toNat ∧ c.toNat ≤ 122) ∨ c.toNat = 95) := by
  rw [Bool.eq_iff_iff, decide_eq_true_iff]
  simp only [isIdentStart, Char.isAlpha, Char.isUpper, Char.isLower, Bool.or_eq_true,
    Bool.and_eq_true, decide_eq_true_eq, beq_iff_eq, char_eq_iff, ge_iff_le, UInt32.le_def,
    BitVec.le_def, Char.toNat, UInt32.toNat]
  simp
  omega

/-! ## The identifier states -/

/-- The kinds of token an identifier run can lex as: the identifier, `true`, `false`, `null`
and the statement keywords. -/
def identKinds : List Symbol :=
  [.symIdentifier, .anonSymTrue, .anonSymFalse, .symNull, .anonSymAddon, .anonSymSigner,
    .anonSymAction, .anonSymOutput, .anonSymVariable, .anonSymInput, .anonSymImport]

/-- The lex states a run of identifier characters passes through from a start state: the
accepting states of the keywords, the keyword trie and the identifier state `140`. -/
def identStates : List Nat :=
  [49, 51, 53, 55, 57, 59, 62, 83, 84, 85] ++ (List.range 44).map (· + 97)

/-- A state of an identifier moves to a state of an identifier on an identifier character
and stops on any other. -/
def IdentMoveOk (s : Nat) : Prop := ∀ c : Char,
  (isIdentChar c = true ∧ ∃ t ∈ identStates, tsLexMove s false c = .advance t) ∨
    (isIdentChar c = false ∧ tsLexMove s false c = .stop)

theorem identMoveOk_accepting : ∀ s ∈ [49, 51, 53, 55, 57, 59, 62, 83, 84, 85], IdentMoveOk s := by
  intro s hs c
  rw [isIdentChar_eq]
  simp only [List.mem_cons, List.not_mem_nil, or_false] at hs
  rcases hs with rfl | rfl | rfl | rfl | rfl | rfl | rfl | rfl | rfl | rfl
  all_goals
    dsimp only [tsLexMove, Nat.reduceDiv, tsLexStates3, tsLexStates5]
    simp only [char_le_iff, char_eq_iff, Char.reduceToNat]
    split_ifs <;>
      first
      | exact .inl ⟨decide_eq_true (by omega), _, by decide, rfl⟩
      | exact .inr ⟨decide_eq_false (by omega), rfl⟩

theorem identMoveOk_trie6 {s : Nat} (h1 : 97 ≤ s) (h2 : s ≤ 111) : IdentMoveOk s := by
  intro c
  rw [isIdentChar_eq]
  interval_cases s
  all_goals
    dsimp only [tsLexMove, Nat.reduceDiv, tsLexStates6]
    simp only [char_le_iff, char_eq_iff, Char.reduceToNat]
    split_ifs <;>
      first
      | exact .inl ⟨decide_eq_true (by omega), _, by decide, rfl⟩
      | exact .inr ⟨decide_eq_false (by omega), rfl⟩

theorem identMoveOk_trie7 {s : Nat} (h1 : 112 ≤ s) (h2 : s ≤ 127) : IdentMoveOk s := by
  intro c
  rw [isIdentChar_eq]
  interval_cases s
  all_goals
    dsimp only [tsLexMove, Nat.reduceDiv, tsLexStates7]
    simp only [char_le_iff, char_eq_iff, Char.reduceToNat]
    split_ifs <;>
      first
      | exact .inl ⟨decide_eq_true (by omega), _, by decide, rfl⟩
      | exact .inr ⟨decide_eq_false (by omega), rfl⟩

theorem identMoveOk_trie8 {s : Nat} (h1 : 128 ≤ s) (h2 : s ≤ 140) : IdentMoveOk s := by
  intro c
  rw [isIdentChar_eq]
  interval_cases s
  all_goals
    dsimp only [tsLexMove, Nat.reduceDiv, tsLexStates8]
    simp only [char_le_iff, char_eq_iff, Char.reduceToNat]
    split_ifs <;>
      first
      | exact .inl ⟨decide_eq_true (by omega), _, by decide, rfl⟩
      | exact .inr ⟨decide_eq_false (by omega), rfl⟩

/-- **The identifier states are closed under identifier characters** and stop on any other. -/
theorem identMoveOk {s : Nat} (hs : s ∈ identStates) : IdentMoveOk s := by
  simp only [identStates, List.mem_append, List.mem_map, List.mem_range] at hs
  rcases hs with hs | ⟨k, hk, rfl⟩
  · exact identMoveOk_accepting s hs
  · rcases Nat.lt_or_ge k 15 with h | h
    · exact identMoveOk_trie6 (by omega) (by omega)
    rcases Nat.lt_or_ge k 31 with h' | h'
    · exact identMoveOk_trie7 (by omega) (by omega)
    · exact identMoveOk_trie8 (by omega) (by omega)

/-- Every identifier state accepts the identifier, `true`, `false`, `null` or a keyword. -/
theorem identStates_accept : ∀ s ∈ identStates, ∃ k, tsLexAccept s = some k ∧ k ∈ identKinds := by
  decide

/-- The identifier states stop at the end of the input. -/
theorem identStates_eof : ∀ s ∈ identStates, tsLexMove s true '\x00' = .stop := by
  decide

/-- The start states of the modes `0`, `1` and `2` on the code points of `[A-Za-z_]`, as
one computation: each move is computed once and its target looked up. -/
theorem identStart_ascii : ∀ m ∈ [0, 1, 2], ∀ n < 123,
    (65 ≤ n ∧ n ≤ 90 ∨ 97 ≤ n ∧ n ≤ 122 ∨ n = 95) →
      (match tsLexMove m false (Char.ofNat n) with
        | .advance t => identStates.contains t
        | _ => false) = true := by
  decide

/-- From the start states of the modes `0`, `1` and `2`, a letter or `_` leads into an
identifier state. -/
theorem identStart_move {m : Nat} (hm : m = 0 ∨ m = 1 ∨ m = 2) {c : Char}
    (hc : isIdentStart c = true) : ∃ t ∈ identStates, tsLexMove m false c = .advance t := by
  rw [isIdentStart_eq, decide_eq_true_iff] at hc
  have h := identStart_ascii m (by simpa using hm) c.toNat (by omega) hc
  rw [Char.ofNat_toNat] at h
  split at h
  · next t hmove => exact ⟨t, by simpa using h, hmove⟩
  · cases h

/-! ## Lexing an identifier run -/

/-- **From an identifier state the lexer reads the identifier characters ahead and stops
before the first other one**, with a token of an identifier kind. -/
theorem tsLexRun_identStates : ∀ {s : Nat} (input : List Char) {pos start : Nat}
    {acc : Option Lexeme}, s ∈ identStates → ∃ k ∈ identKinds,
      tsLexRun s pos start acc input =
        some (⟨k, start, pos + (input.takeWhile isIdentChar).length⟩,
          input.dropWhile isIdentChar)
  | s, [], pos, start, acc, hs => by
    obtain ⟨k, hk, hkind⟩ := identStates_accept s hs
    refine ⟨k, hkind, ?_⟩
    simp [tsLexRun, identStates_eof s hs, acceptAt_of_accept hk]
  | s, c :: rest, pos, start, acc, hs => by
    rcases identMoveOk hs c with ⟨hc, t, ht, hmove⟩ | ⟨hc, hmove⟩
    · obtain ⟨k, hkind, hrun⟩ :=
        @tsLexRun_identStates t rest (pos + 1) start (acceptAt s pos start (c :: rest) acc) ht
      refine ⟨k, hkind, ?_⟩
      rw [tsLexRun_cons_advance hmove, hrun, List.takeWhile_cons_of_pos hc,
        List.dropWhile_cons_of_pos hc, List.length_cons, Nat.add_assoc, Nat.add_comm 1]
    · obtain ⟨k, hk, hkind⟩ := identStates_accept s hs
      refine ⟨k, hkind, ?_⟩
      rw [tsLexRun_cons_stop hmove, acceptAt_of_accept hk,
        List.takeWhile_cons_of_neg (by simp [hc]), List.dropWhile_cons_of_neg (by simp [hc])]
      rfl

/-- **Modes `0`, `1` and `2` lex an identifier run whole**: the token is the longest prefix
of the form `[A-Za-z_][A-Za-z0-9_]*`, of an identifier kind. -/
theorem lex_identifierRun {m pos : Nat} (hm : m = 0 ∨ m = 1 ∨ m = 2) {c : Char}
    {tail : List Char} (hc : isIdentStart c = true) : ∃ k ∈ identKinds,
      tsLex m pos (c :: tail) =
        some (⟨k, pos, pos + identifierRunLength (c :: tail)⟩, tail.dropWhile isIdentChar) := by
  obtain ⟨t, ht, hmove⟩ := identStart_move hm hc
  have hacc : tsLexAccept m = none := by rcases hm with rfl | rfl | rfl <;> rfl
  obtain ⟨k, hkind, hrun⟩ := @tsLexRun_identStates t tail (pos + 1) pos none ht
  refine ⟨k, hkind, ?_⟩
  rw [tsLex, tsLexRun_cons_advance hmove, acceptAt, hacc]
  simp only [hrun, identifierRunLength, hc, if_true, Nat.add_assoc]

/-- **A lex mode with the identifier token never cuts a keyword from an identifier run.** In
a parse state whose lex mode is `0`, `1` or `2`, on an input that starts with a letter or
`_`, the lexer returns a token of an identifier kind that spans the whole run. -/
theorem identifierRun_lexed {s pos : Nat} {c : Char} {tail : List Char}
    (hm : tsLexModes s = 0 ∨ tsLexModes s = 1 ∨ tsLexModes s = 2) (hc : isIdentStart c = true) :
    ∃ tok rest, tsLex (tsLexModes s) pos (c :: tail) = some (tok, rest) ∧ tok.start = pos ∧
      tok.symbol ∈ identKinds ∧ tok.stop - tok.start = identifierRunLength (c :: tail) := by
  obtain ⟨k, hkind, h⟩ := @lex_identifierRun _ pos hm _ tail hc
  exact ⟨_, _, h, rfl, hkind, by simp⟩

/-- In the start state's mode `0`, `addonx` lexes whole. -/
theorem identifierRun_lexed_addonx :
    (tsLexModes 0 = 0 ∨ tsLexModes 0 = 1 ∨ tsLexModes 0 = 2) ∧ isIdentStart 'a' = true ∧
      ∃ tok rest, tsLex (tsLexModes 0) 0 ('a' :: "ddonx".toList) = some (tok, rest) ∧
        tok.start = 0 ∧ tok.symbol ∈ identKinds ∧
        tok.stop - tok.start = identifierRunLength ('a' :: "ddonx".toList) :=
  ⟨.inl rfl, rfl, identifierRun_lexed (.inl rfl) rfl⟩

/-! ## The keywords of mode `2` -/

/-- The identifier state `140` and the states of the complete keywords of mode `2` lead to
`140` on every identifier character. -/
theorem plain_move : ∀ s ∈ [83, 84, 85, 140], ∀ c, isIdentChar c = true →
    tsLexMove s false c = .advance 140 := by
  intro s hs c hc
  rw [isIdentChar_eq, decide_eq_true_iff] at hc
  simp only [List.mem_cons, List.not_mem_nil, or_false] at hs
  rcases hs with rfl | rfl | rfl | rfl
  all_goals
    dsimp only [tsLexMove, Nat.reduceDiv, tsLexStates5, tsLexStates8]
    simp only [char_le_iff, char_eq_iff, Char.reduceToNat]
    rw [if_pos (by omega)]

/-- The states of the keyword trie of mode `2` with the letter that goes on: any other
identifier character leads to `140`. -/
theorem modeTwoTrie_exit : ∀ p ∈ [(126, 'r'), (135, 'u'), (103, 'e'), (137, 'u'), (113, 'l'),
    (112, 'l'), (97, 'a'), (111, 'l'), (129, 's'), (104, 'e')], ∀ c, isIdentChar c = true →
      c ≠ p.2 → tsLexMove p.1 false c = .advance 140 := by
  intro p hp c hc hL
  rw [isIdentChar_eq, decide_eq_true_iff] at hc
  simp only [List.mem_cons, List.not_mem_nil, or_false] at hp
  rcases hp with rfl | rfl | rfl | rfl | rfl | rfl | rfl | rfl | rfl | rfl
  all_goals
    dsimp only [tsLexMove, Nat.reduceDiv, tsLexStates6, tsLexStates7, tsLexStates8]
    simp only [ne_eq, char_le_iff, char_eq_iff, Char.reduceToNat] at hL ⊢
    rw [if_neg hL, if_pos (by omega)]

/-- From `140` the lexer reads the identifier characters ahead as one identifier. -/
theorem tsLexRun_ident140 : ∀ (input : List Char) {pos start : Nat} {acc : Option Lexeme},
    tsLexRun 140 pos start acc input =
      some (⟨.symIdentifier, start, pos + (input.takeWhile isIdentChar).length⟩,
        input.dropWhile isIdentChar)
  | [], pos, start, acc => by simp [tsLexRun, acceptAt]; rfl
  | c :: rest, pos, start, acc => by
    rcases identMoveOk (s := 140) (by decide) c with ⟨hc, -⟩ | ⟨hc, hmove⟩
    · rw [tsLexRun_cons_advance (plain_move 140 (by simp) c hc), tsLexRun_ident140 rest,
        List.takeWhile_cons_of_pos hc, List.dropWhile_cons_of_pos hc, List.length_cons,
        Nat.add_assoc, Nat.add_comm 1]
    · rw [tsLexRun_cons_stop hmove,
        acceptAt_of_accept (show tsLexAccept 140 = some .symIdentifier from rfl),
        List.takeWhile_cons_of_neg (by simp [hc]), List.dropWhile_cons_of_neg (by simp [hc])]
      rfl

/-- A chain of a keyword trie from state `s`: the letters `ls` lead through identifier states
to one that accepts `K`, the states before it accept the identifier, and any other
identifier character leads to `140`. -/
def KeywordChain : Nat → List Char → Symbol → Prop
  | s, [], K => s ∈ identStates ∧ tsLexAccept s = some K ∧
      ∀ c, isIdentChar c = true → tsLexMove s false c = .advance 140
  | s, L :: ls, K => s ∈ identStates ∧ tsLexAccept s = some .symIdentifier ∧
      (∃ t, tsLexMove s false L = .advance t ∧ KeywordChain t ls K) ∧
      ∀ c, isIdentChar c = true → c ≠ L → tsLexMove s false c = .advance 140

theorem KeywordChain.mem {s : Nat} {ls : List Char} {K : Symbol} (h : KeywordChain s ls K) :
    s ∈ identStates := by
  cases ls <;> exact h.1

/-- **Along a keyword chain the lexer returns the keyword exactly when the run is the rest of
the keyword**, and the identifier otherwise, with the whole run as the token. -/
theorem tsLexRun_keywordChain {K : Symbol} : ∀ (input : List Char) {s pos start : Nat}
    {ls : List Char} {acc : Option Lexeme}, KeywordChain s ls K →
      tsLexRun s pos start acc input =
        some (⟨if input.takeWhile isIdentChar = ls then K else .symIdentifier, start,
          pos + (input.takeWhile isIdentChar).length⟩, input.dropWhile isIdentChar)
  | [], s, pos, start, ls, acc, h => by
    have hstop := identStates_eof s h.mem
    cases ls with
    | nil => simp [tsLexRun, hstop, acceptAt_of_accept h.2.1]
    | cons L ls => simp [tsLexRun, hstop, acceptAt_of_accept h.2.1]
  | c :: rest, s, pos, start, ls, acc, h => by
    rcases identMoveOk h.mem c with ⟨hc, -⟩ | ⟨hc, hmove⟩
    · rw [List.takeWhile_cons_of_pos hc, List.dropWhile_cons_of_pos hc, List.length_cons,
        ← Nat.add_comm 1, ← Nat.add_assoc]
      cases ls with
      | nil =>
        rw [tsLexRun_cons_advance (h.2.2 c hc), tsLexRun_ident140]
        simp
      | cons L ls =>
        obtain ⟨-, -, ⟨t, hLt, ht⟩, hexit⟩ := h
        by_cases hcL : c = L
        · subst hcL
          rw [tsLexRun_cons_advance hLt, tsLexRun_keywordChain rest ht]
          simp
        · rw [tsLexRun_cons_advance (hexit c hc hcL), tsLexRun_ident140]
          simp [hcL]
    · have hnil : (c :: rest).takeWhile isIdentChar = [] :=
        List.takeWhile_cons_of_neg (by simp [hc])
      rw [tsLexRun_cons_stop hmove, hnil, List.dropWhile_cons_of_neg (by simp [hc])]
      cases ls with
      | nil => simp [acceptAt_of_accept h.2.1]
      | cons L ls => simp [acceptAt_of_accept h.2.1]

theorem modeTwo_chains : KeywordChain 126 ['r', 'u', 'e'] .anonSymTrue ∧
    KeywordChain 97 ['a', 'l', 's', 'e'] .anonSymFalse ∧ KeywordChain 137 ['u', 'l', 'l'] .symNull := by
  simp only [KeywordChain]
  have hexit := modeTwoTrie_exit
  simp only [List.mem_cons, List.not_mem_nil, or_false, forall_eq_or_imp, forall_eq] at hexit
  exact ⟨⟨by decide, rfl, ⟨_, rfl, by decide, rfl, ⟨_, rfl, by decide, rfl, ⟨_, rfl, by decide, rfl,
      plain_move 83 (by simp)⟩, hexit.2.2.1⟩, hexit.2.1⟩, hexit.1⟩,
    ⟨by decide, rfl, ⟨_, rfl, by decide, rfl, ⟨_, rfl, by decide, rfl, ⟨_, rfl, by decide, rfl,
      ⟨_, rfl, by decide, rfl, plain_move 84 (by simp)⟩, hexit.2.2.2.2.2.2.2.2.2⟩,
      hexit.2.2.2.2.2.2.2.2.1⟩, hexit.2.2.2.2.2.2.2.1⟩, hexit.2.2.2.2.2.2.1⟩,
    ⟨by decide, rfl, ⟨_, rfl, by decide, rfl, ⟨_, rfl, by decide, rfl, ⟨_, rfl, by decide, rfl,
      plain_move 85 (by simp)⟩, hexit.2.2.2.2.2.1⟩, hexit.2.2.2.2.1⟩, hexit.2.2.2.1⟩⟩

/-- Mode `2` takes a letter or `_` other than the first letters of `true`, `false` and `null`
to the identifier state. -/
theorem modeTwo_start {c : Char} (hc : isIdentStart c = true) (ht : c ≠ 't') (hf : c ≠ 'f')
    (hn : c ≠ 'n') : tsLexMove 2 false c = .advance 140 := by
  rw [isIdentStart_eq, decide_eq_true_iff] at hc
  simp only [ne_eq, char_eq_iff, Char.reduceToNat] at ht hf hn
  dsimp only [tsLexMove, Nat.reduceDiv, tsLexStates0]
  simp only [char_le_iff, char_eq_iff, Char.reduceToNat]
  rw [if_neg (by omega), if_neg (by omega), if_neg (by omega), if_neg (by omega), if_neg (by omega),
    if_neg (by omega), if_neg (by omega), if_neg (by omega), if_neg (by omega), if_neg hf,
    if_neg hn, if_neg ht, if_neg (by omega), if_neg (by omega), if_neg (by omega),
    if_pos (by omega)]

/-- Mode `1` takes every letter and `_` to the identifier state. -/
theorem modeOne_start {c : Char} (hc : isIdentStart c = true) :
    tsLexMove 1 false c = .advance 140 := by
  rw [isIdentStart_eq, decide_eq_true_iff] at hc
  dsimp only [tsLexMove, Nat.reduceDiv, tsLexStates0]
  simp only [char_le_iff, char_eq_iff, Char.reduceToNat]
  rw [if_neg (by omega), if_neg (by omega), if_neg (by omega), if_neg (by omega), if_neg (by omega),
    if_neg (by omega), if_neg (by omega), if_neg (by omega), if_neg (by omega), if_neg (by omega),
    if_neg (by omega), if_neg (by omega), if_neg (by omega), if_pos (by omega)]

/-- **Mode `1` lexes every identifier run as the identifier**, keywords included. -/
theorem lex_modeOne {pos : Nat} {c : Char} {tail : List Char} (hc : isIdentStart c = true) :
    tsLex 1 pos (c :: tail) = some (⟨.symIdentifier, pos, pos + identifierRunLength (c :: tail)⟩,
      tail.dropWhile isIdentChar) := by
  rw [tsLex, tsLexRun_cons_advance (modeOne_start hc), tsLexRun_ident140]
  simp only [identifierRunLength, hc, if_true, Nat.add_assoc]

/-- The kind mode `2` gives an identifier run: `true`, `false` and `null` are keywords there. -/
def modeTwoKind (w : List Char) : Symbol :=
  if w = ['t', 'r', 'u', 'e'] then .anonSymTrue
  else if w = ['f', 'a', 'l', 's', 'e'] then .anonSymFalse
  else if w = ['n', 'u', 'l', 'l'] then .symNull
  else .symIdentifier

/-- **Mode `2` lexes an identifier run whole**, as `true`, `false` or `null` when it is one of
them and as the identifier otherwise. -/
theorem lex_modeTwo {pos : Nat} {c : Char} {tail : List Char} (hc : isIdentStart c = true) :
    tsLex 2 pos (c :: tail) = some (⟨modeTwoKind (c :: tail.takeWhile isIdentChar), pos,
      pos + identifierRunLength (c :: tail)⟩, tail.dropWhile isIdentChar) := by
  obtain ⟨htrue, hfalse, hnull⟩ := modeTwo_chains
  have hlen : pos + identifierRunLength (c :: tail) = pos + 1 + (tail.takeWhile isIdentChar).length := by
    simp only [identifierRunLength, hc, if_true, Nat.add_assoc]
  rw [tsLex, hlen]
  by_cases ht : c = 't'
  · subst ht
    rw [tsLexRun_cons_advance (show tsLexMove 2 false 't' = .advance 126 from rfl),
      tsLexRun_keywordChain tail htrue]
    simp [modeTwoKind]
  by_cases hf : c = 'f'
  · subst hf
    rw [tsLexRun_cons_advance (show tsLexMove 2 false 'f' = .advance 97 from rfl),
      tsLexRun_keywordChain tail hfalse]
    simp [modeTwoKind]
  by_cases hn : c = 'n'
  · subst hn
    rw [tsLexRun_cons_advance (show tsLexMove 2 false 'n' = .advance 137 from rfl),
      tsLexRun_keywordChain tail hnull]
    simp [modeTwoKind]
  rw [tsLexRun_cons_advance (modeTwo_start hc ht hf hn), tsLexRun_ident140]
  simp [modeTwoKind, ht, hf, hn]

end TreeSitterTxtx
