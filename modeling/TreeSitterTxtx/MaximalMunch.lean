import TreeSitterTxtx.LongestMatch
import TreeSitterTxtx.Simulation

/-!
# The lexer is maximal munch

`ts_lex` is one loop over a generated automaton (`tsLexRun`): a state that accepts marks its
token and reads on, a `SKIP` drops a character before the token, and the token returned is
the one marked last. What the loop computes is stated here without it (`maximalMunch`): a
mode that skips whitespace skips it first; then the token is the longest prefix of the
input that the automaton accepts (`longestToken`), or, at the end of the input in a mode
that skips, the token of the mode's end-of-input move (`endToken`).

The loop computes it in every lex mode, at every position and on every input
(`tsLex_eq_maximalMunch`). Each move of the automaton stops, advances into a state that does
not skip, or skips whitespace in a state that does (`tsLexMove_cases`, from the certificate
`tsLexMove_keepsGap`), and no state that does not skip reads the end of the input. So these
states are closed (`nonSkip_closed`), and from one of them the loop returns the longest
accepted prefix (`tsLexRun_longest`); a mode that skips drops its whitespace
(`tsLex_skipSpaces`), and its first other character stops it or leads into the closed set.
-/

namespace TreeSitterTxtx

/-! ## The specification -/

/-- The longest prefix of `input`, of length `n` at most, that the automaton accepts from
`state`: its length and the kind of token. -/
def longestAccepted (state : Nat) (input : List Char) : Nat → Option (Nat × Symbol)
  | 0 => (lexAccepts state []).map ((0, ·))
  | n + 1 =>
    (lexAccepts state (input.take (n + 1))).map ((n + 1, ·)) <|> longestAccepted state input n

/-- The token read from `state` at `start`: the longest prefix of the input the automaton
accepts, and the input after it. -/
def longestToken (state start : Nat) (input : List Char) : Option Lexeme :=
  (longestAccepted state input input.length).map fun nk =>
    (⟨nk.2, start, start + nk.1⟩, input.drop nk.1)

/-- The token a mode reads at the end of the input: the one its end-of-input move accepts. -/
def endToken (mode pos : Nat) : Option Lexeme :=
  (tsLexMove mode true '\x00').target.bind fun s =>
    (tsLexAccept s).map fun k => (⟨k, pos, pos⟩, [])

/-- What `ts_lex` returns in the lex mode `mode` at `pos`: a mode that skips whitespace skips
it first, and then reads the end of the input or the longest token. -/
def maximalMunch (mode pos : Nat) (input : List Char) : Option Lexeme :=
  if isSkipState mode then
    let start := pos + (input.takeWhile isSkipSpace).length
    let r := input.dropWhile isSkipSpace
    if r = [] then endToken mode start else longestToken mode start r
  else longestToken mode pos input

theorem longestAccepted_none {state : Nat} {input : List Char} :
    ∀ {n : Nat}, (∀ m ≤ n, lexAccepts state (input.take m) = none) →
      longestAccepted state input n = none
  | 0, h => by simpa [longestAccepted] using h 0 (Nat.le_refl 0)
  | n + 1, h => by
    rw [longestAccepted, h (n + 1) (Nat.le_refl _), Option.map_none', Option.none_orElse,
      longestAccepted_none fun m hm => h m (Nat.le_succ_of_le hm)]

theorem longestAccepted_some {state m : Nat} {input : List Char} {k : Symbol}
    (hm : lexAccepts state (input.take m) = some k) :
    ∀ {n : Nat}, m ≤ n → (∀ j, m < j → j ≤ n → lexAccepts state (input.take j) = none) →
      longestAccepted state input n = some (m, k)
  | 0, h0, _ => by
    obtain rfl := Nat.le_zero.1 h0
    simpa [longestAccepted] using hm
  | n + 1, hle, hlong => by
    rcases Nat.eq_or_lt_of_le hle with rfl | hlt
    · rw [longestAccepted, hm]; rfl
    · rw [longestAccepted, hlong (n + 1) hlt (Nat.le_refl _), Option.map_none', Option.none_orElse]
      exact longestAccepted_some hm (Nat.le_of_lt_succ hlt) fun j h1 h2 =>
        hlong j h1 (Nat.le_succ_of_le h2)

/-- The specification's token is what the loop returns, from either of the loop's outcomes:
no prefix accepted, or the longest accepted prefix. -/
theorem longestToken_eq {s start : Nat} {input : List Char} {res : Option Lexeme}
    (h : (res = none ∧ ∀ u, u <+: input → lexAccepts s u = none) ∨
      ∃ u rest k, LongestAccepted s input u rest k ∧
        res = some (⟨k, start, start + u.length⟩, rest)) :
    res = longestToken s start input := by
  rcases h with ⟨rfl, hnone⟩ | ⟨u, rest, k, hl, rfl⟩
  · rw [longestToken, longestAccepted_none fun m _ => hnone _ (List.take_prefix m input)]; rfl
  · have hu : input.take u.length = u := by rw [hl.decomp, List.take_left]
    have hlen : u.length ≤ input.length := by rw [hl.decomp, List.length_append]; omega
    rw [longestToken, longestAccepted_some (hu ▸ hl.accepts) hlen fun j hj hjn =>
      hl.longest _ (List.take_prefix j input) (by rw [List.length_take]; omega)]
    simp only [Option.map_some', hl.decomp, List.drop_left]

/-! ## The states that do not skip are closed -/

/-- The lex states that do not skip. -/
def nonSkipStates : List Nat := (List.range 160).filter fun s => !isSkipState s

theorem mem_nonSkipStates {s : Nat} : s ∈ nonSkipStates ↔ s < 160 ∧ isSkipState s = false := by
  simp [nonSkipStates]

/-- **What a move of `ts_lex` on a character can do.** It stops, advances into a state that
does not skip, or skips whitespace in a state that skips, staying there. -/
theorem tsLexMove_cases (s : Nat) (c : Char) :
    tsLexMove s false c = .stop ∨ (∃ t ∈ nonSkipStates, tsLexMove s false c = .advance t) ∨
      (tsLexMove s false c = .skip s ∧ isSkipState s = true ∧ isSkipSpace c = true) := by
  have hok := tsLexMove_keepsGap s c
  cases h : tsLexMove s false c with
  | stop => exact .inl rfl
  | advance t =>
    rw [h, LexMove.keepsGap_advance] at hok
    simp only [Bool.and_eq_true, Bool.not_eq_true', bne_iff_ne, ne_eq, decide_eq_true_eq] at hok
    exact .inr (.inl ⟨t, mem_nonSkipStates.2 ⟨hok.2, hok.1.1⟩, rfl⟩)
  | skip t =>
    rw [h, LexMove.keepsGap_skip] at hok
    simp only [Bool.and_eq_true, beq_iff_eq] at hok
    obtain ⟨⟨rfl, hs⟩, hc⟩ := hok
    exact .inr (.inr ⟨rfl, hs, hc⟩)

/-- No state that does not skip reads the end of the input. -/
theorem nonSkip_eof : ∀ s < 160, isSkipState s = false → tsLexMove s true '\x00' = .stop := by
  set_option maxRecDepth 4000 in decide

/-- **The states that do not skip are closed**: none reads the end of the input, and each
character stops them or advances into another. -/
theorem nonSkip_closed : LexClosed nonSkipStates := by
  intro s hs
  rw [mem_nonSkipStates] at hs
  refine ⟨nonSkip_eof s hs.1 hs.2, fun c => ?_⟩
  rcases tsLexMove_cases s c with h | h | ⟨-, hskip, -⟩
  · exact .inl h
  · exact .inr h
  · rw [hs.2] at hskip; cases hskip

/-! ## The loop computes the specification -/

/-- A mode that does not skip reads the longest token. -/
theorem tsLex_nonSkip {mode : Nat} (hm : isSkipState mode = false) (pos : Nat)
    (input : List Char) : tsLex mode pos input = longestToken mode pos input := by
  rcases Nat.lt_or_ge mode 160 with hlt | hge
  · exact longestToken_eq (tsLexRun_longest nonSkip_closed pos input
      (mem_nonSkipStates.2 ⟨hlt, hm⟩) pos none)
  · -- past the last state nothing moves
    refine longestToken_eq (longest_of_only_nil pos ?_ fun u hu h0 => ?_)
    · cases input with
      | nil => simp [tsLex, tsLexRun, tsLexMove_of_ge hge]
      | cons c rest => exact tsLexRun_cons_stop (tsLexMove_of_ge hge false c)
    · obtain ⟨c, u', rfl⟩ := List.exists_cons_of_ne_nil h0
      exact lexAccepts_cons_stop (tsLexMove_of_ge hge false c) u'

/-- A mode that skips reads, at the end of the input, the token of its end-of-input move. -/
theorem tsLex_skip_nil {mode : Nat} (hm : isSkipState mode = true) (pos : Nat) :
    tsLex mode pos [] = endToken mode pos := by
  have hacc := (skipState_skips mode (isSkipState_mem hm)).1
  rcases tsLexMove_eof mode with h | h
  · simp [tsLex, tsLexRun, acceptAt, hacc, endToken, h, LexMove.target]
  · simp only [tsLex, tsLexRun, acceptAt, hacc, endToken, h, LexMove.target, Option.some_bind]
    cases tsLexAccept 47 <;> rfl

/-- Every mode reads the longest token from a character other than whitespace. -/
theorem tsLex_nonSpace (mode : Nat) {c : Char} (hc : isSkipSpace c = false) (pos : Nat)
    (rest : List Char) :
    tsLex mode pos (c :: rest) = longestToken mode pos (c :: rest) := by
  rcases tsLexMove_cases mode c with hstop | ⟨t, ht, hadv⟩ | ⟨-, -, hc'⟩
  · refine longestToken_eq (longest_of_only_nil pos (tsLexRun_cons_stop hstop) fun u hu h0 => ?_)
    obtain ⟨u', rfl, -⟩ := (List.prefix_cons_iff.1 hu).resolve_left h0
    exact lexAccepts_cons_stop hstop u'
  · rw [tsLex, tsLexRun_cons_advance hadv]
    exact longestToken_eq (longest_cons_advance pos hadv
      (tsLexRun_longest nonSkip_closed pos rest ht (pos + 1) _))
  · rw [hc] at hc'; cases hc'

/-- **`ts_lex` is maximal munch.** In every lex mode, at every position and on every input,
the loop returns the token of the specification: after the whitespace a skipping mode
drops, the longest prefix the automaton accepts, or the end of the input. Reference:
`ts_lex`, `parser.c` lines 735-1703. -/
theorem tsLex_eq_maximalMunch (mode pos : Nat) (input : List Char) :
    tsLex mode pos input = maximalMunch mode pos input := by
  cases hm : isSkipState mode with
  | false =>
    simp only [maximalMunch, hm, Bool.false_eq_true, if_false]
    exact tsLex_nonSkip hm pos input
  | true =>
    conv_lhs => rw [← List.takeWhile_append_dropWhile isSkipSpace input]
    rw [tsLex_skipSpaces hm pos _ List.all_takeWhile]
    simp only [maximalMunch, hm, if_true]
    split
    · next hr => rw [hr]; exact tsLex_skip_nil hm _
    · next hr =>
      obtain ⟨c, rest, hcr⟩ := List.exists_cons_of_ne_nil hr
      have hc : isSkipSpace c = false := by
        simpa only [hcr] using List.head_dropWhile_not isSkipSpace input hr
      rw [hcr]
      exact tsLex_nonSpace mode hc _ rest

/-- In mode `0` the number `12.5` after a space is read whole, up to the `x`. -/
theorem tsLex_munch_number :
    tsLex 0 3 [' ', '1', '2', '.', '5', 'x'] = some (⟨.auxSymNumberToken2, 4, 8⟩, ['x']) :=
  (tsLex_eq_maximalMunch 0 3 _).trans (by decide)

end TreeSitterTxtx
