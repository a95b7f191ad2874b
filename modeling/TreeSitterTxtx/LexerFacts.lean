import TreeSitterTxtx.Lexer

/-!
# Facts about the lexer

The lexer's loop `tsLexRun` reads the input from the left and remembers the last token
accepted. Whatever the lex mode, its result lies in the input read (`tsLex_span`): the
token starts after the position the lexer was called at, and the input left is the input
after the token's end. A token that ends where the lexer started is one of the few symbols
a mode accepts before reading anything (`tsLex_zeroWidth`); these are the empty string
contents, the empty line-comment content and the end of the input. Moving the position
the lexer starts at moves its token by as much (`tsLex_shift`).
-/

namespace TreeSitterTxtx

/-! ## The state a move leads to -/

/-- The lex state a move leads to, if it does not stop. -/
def LexMove.target : LexMove → Option Nat
  | .advance s | .skip s => some s
  | .stop => none

/-- A lex state past the last one stops (`default: return false`). -/
theorem tsLexMove_of_ge {state : Nat} (h : 160 ≤ state) (eof : Bool) (c : Char) :
    tsLexMove state eof c = .stop := by
  obtain ⟨k, hk⟩ : ∃ k, state / 16 = k + 10 := ⟨state / 16 - 10, by omega⟩
  simp [tsLexMove, hk]

/-- At the end of the input a lex state either stops or advances to state `47`. -/
theorem tsLexMove_eof (state : Nat) :
    tsLexMove state true '\x00' = .stop ∨ tsLexMove state true '\x00' = .advance 47 := by
  by_cases h : state < 160
  · have hall : ∀ s < 160,
        tsLexMove s true '\x00' = .stop ∨ tsLexMove s true '\x00' = .advance 47 := by
      set_option maxRecDepth 4000 in decide
    exact hall state h
  · exact .inl (tsLexMove_of_ge (by omega) _ _)

/-- **The end-of-input move reaches a state that stops.** This is why `tsLexRun` takes one
move at the end of the input: the C loop, which keeps running with `eof` set, stops in
the next state. -/
theorem tsLexMove_eof_target {state target : Nat}
    (h : (tsLexMove state true '\x00').target = some target) :
    tsLexMove target true '\x00' = .stop := by
  rcases tsLexMove_eof state with h' | h' <;> rw [h'] at h <;> cases h
  rfl

/-! ## Where a token lies -/

/-- A lexer result for the input `input` read from position `pos`: the token starts at or
after `pos`, ends within the input, and the input left is the input after its end. -/
def LexSpan (pos : Nat) (input : List Char) (la : Lexeme) : Prop :=
  pos ≤ la.1.start ∧ la.1.start ≤ la.1.stop ∧ la.1.stop ≤ pos + input.length ∧
    la.2 = input.drop (la.1.stop - pos)

theorem acceptAt_span {state pos0 start : Nat} {pre input : List Char} {acc : Option Lexeme}
    (hs : pos0 ≤ start) (hs' : start ≤ pos0 + pre.length)
    (hacc : ∀ la ∈ acc, LexSpan pos0 (pre ++ input) la) :
    ∀ la ∈ acceptAt state (pos0 + pre.length) start input acc,
      LexSpan pos0 (pre ++ input) la := by
  unfold acceptAt
  split
  · rintro la ⟨⟩
    refine ⟨hs, hs', by simp, ?_⟩
    rw [Nat.add_sub_cancel_left, List.drop_left]
  · exact hacc

/-- The loop keeps every token it accepts within the input it was started on; `pre` is the
part of that input already read. -/
theorem tsLexRun_span {pos0 : Nat} :
    ∀ {input pre : List Char} {state start : Nat} {acc : Option Lexeme},
      pos0 ≤ start → start ≤ pos0 + pre.length →
      (∀ la ∈ acc, LexSpan pos0 (pre ++ input) la) →
      ∀ la ∈ tsLexRun state (pos0 + pre.length) start acc input,
        LexSpan pos0 (pre ++ input) la
  | [], pre, state, start, acc, hs, hs', hacc => by
    have h1 := @acceptAt_span state _ _ _ [] _ hs hs' hacc
    unfold tsLexRun
    split
    all_goals first
      | exact h1
      | exact acceptAt_span hs hs' h1
  | c :: rest, pre, state, start, acc, hs, hs', hacc => by
    have h1 := @acceptAt_span state _ _ _ (c :: rest) _ hs hs' hacc
    have happ : pre ++ c :: rest = (pre ++ [c]) ++ rest := by simp
    have hlen : pos0 + (pre ++ [c]).length = pos0 + pre.length + 1 := by simp; omega
    unfold tsLexRun
    split
    · rw [happ, ← hlen]
      exact tsLexRun_span hs (by simp; omega) (happ ▸ h1)
    · rw [happ, ← hlen]
      exact tsLexRun_span (by omega) (by simp) (happ ▸ h1)
    · exact h1

/-- **Every token the lexer returns lies in its input.** -/
theorem tsLex_span {mode pos : Nat} {input : List Char} {la : Lexeme}
    (h : tsLex mode pos input = some la) : LexSpan pos input la := by
  have := @tsLexRun_span pos input [] mode pos none (Nat.le_refl _) (by simp) (by simp)
  simpa using this la (by simpa [tsLex] using h)

/-! ## Tokens of width zero -/

/-- A token the loop accepts after reading past `pos` ends after `pos`. -/
theorem tsLexRun_stop_ge :
    ∀ {input : List Char} {state pos start : Nat} {acc : Option Lexeme},
      ∀ la ∈ tsLexRun state pos start acc input, la ∈ acc ∨ pos ≤ la.1.stop
  | [], state, pos, start, acc => by
    intro la h
    unfold tsLexRun acceptAt at h
    repeat' split at h
    all_goals first | exact .inl h | (cases h; exact .inr (Nat.le_refl _))
  | c :: rest, state, pos, start, acc => by
    intro la h
    unfold tsLexRun at h
    have hacc : ∀ la ∈ acceptAt state pos start (c :: rest) acc, la ∈ acc ∨ pos ≤ la.1.stop := by
      intro la h
      unfold acceptAt at h
      split at h
      · cases h; exact .inr (Nat.le_refl _)
      · exact .inl h
    split at h
    · rcases tsLexRun_stop_ge la h with h | h
      · exact hacc la h
      · exact .inr (by omega)
    · rcases tsLexRun_stop_ge la h with h | h
      · exact hacc la h
      · exact .inr (by omega)
    · exact hacc la h

/-- The symbols lex mode `mode` accepts before reading anything: its own `ACCEPT_TOKEN`, and
at the end of the input the one of the state its end-of-input move reaches. -/
def zeroWidthSymbols (mode : Nat) : List Symbol :=
  (tsLexAccept mode).toList ++
    ((tsLexMove mode true '\x00').target.bind tsLexAccept).toList

/-- **A token that ends where the lexer started is one its mode accepts before reading
anything.** -/
theorem tsLex_zeroWidth {mode pos : Nat} {input : List Char} {la : Lexeme}
    (h : tsLex mode pos input = some la) (hstop : la.1.stop = pos) :
    la.1.symbol ∈ zeroWidthSymbols mode := by
  unfold tsLex tsLexRun at h
  cases input with
  | nil =>
    rcases tsLexMove_eof mode with hm | hm
    · simp only [hm, acceptAt] at h
      split at h
      · next sym hsym => cases h; simp [zeroWidthSymbols, hsym]
      · cases h
    · have h47 : tsLexAccept 47 = some .tsBuiltinSymEnd := rfl
      simp only [hm, acceptAt, h47] at h
      cases h
      simp [zeroWidthSymbols, hm, LexMove.target, h47]
  | cons c rest =>
    have key : ∀ la ∈ acceptAt mode pos pos (c :: rest) none, la.1.symbol ∈ zeroWidthSymbols mode := by
      intro la h
      unfold acceptAt at h
      split at h
      · next sym hsym => cases h; simp [zeroWidthSymbols, hsym]
      · cases h
    simp only at h
    split at h
    · rcases tsLexRun_stop_ge la h with h' | h'
      · exact key la h'
      · omega
    · rcases tsLexRun_stop_ge la h with h' | h'
      · exact key la h'
      · omega
    · exact key la h

/-! ## Moving the start position -/

/-- A token moved `d` positions to the right. -/
def Token.shift (d : Nat) (tok : Token) : Token := ⟨tok.symbol, tok.start + d, tok.stop + d⟩

@[simp] theorem Token.shift_symbol (d : Nat) (tok : Token) : (tok.shift d).symbol = tok.symbol := rfl
@[simp] theorem Token.shift_start (d : Nat) (tok : Token) : (tok.shift d).start = tok.start + d := rfl
@[simp] theorem Token.shift_stop (d : Nat) (tok : Token) : (tok.shift d).stop = tok.stop + d := rfl

/-- A lexer result moved `d` positions to the right. -/
def Lexeme.shift (d : Nat) (la : Lexeme) : Lexeme := (la.1.shift d, la.2)

theorem acceptAt_shift (d state pos start : Nat) (rest : List Char) (acc : Option Lexeme) :
    acceptAt state (pos + d) (start + d) rest (acc.map (Lexeme.shift d)) =
      (acceptAt state pos start rest acc).map (Lexeme.shift d) := by
  unfold acceptAt
  split <;> rfl

theorem tsLexRun_shift (d : Nat) :
    ∀ (input : List Char) (state pos start : Nat) (acc : Option Lexeme),
      tsLexRun state (pos + d) (start + d) (acc.map (Lexeme.shift d)) input =
        (tsLexRun state pos start acc input).map (Lexeme.shift d)
  | [], state, pos, start, acc => by
    simp only [tsLexRun, acceptAt_shift]
    split <;> simp only [acceptAt_shift]
  | c :: rest, state, pos, start, acc => by
    simp only [tsLexRun, acceptAt_shift]
    split
    · rw [Nat.add_right_comm, tsLexRun_shift d rest]
    · rw [Nat.add_right_comm, tsLexRun_shift d rest]
    · rfl

/-- **The lexer does not look at positions**: started `d` further right, it returns the same
token moved by `d`. -/
theorem tsLex_shift (d mode pos : Nat) (input : List Char) :
    tsLex mode (pos + d) input = (tsLex mode pos input).map (Lexeme.shift d) := by
  simpa using tsLexRun_shift d input mode pos pos none

/-! ## Keywords and identifiers -/

/-- Whether a character may start an identifier: `[A-Za-z_]`. -/
def isIdentStart (c : Char) : Bool := c.isAlpha || c == '_'

/-- Whether a character may continue an identifier: `[A-Za-z0-9_]`. -/
def isIdentChar (c : Char) : Bool := c.isAlphanum || c == '_'

/-- The length of the longest prefix of `w` of the form `[A-Za-z_][A-Za-z0-9_]*`. -/
def identifierRunLength : List Char → Nat
  | c :: w => if isIdentStart c then 1 + (w.takeWhile isIdentChar).length else 0
  | [] => 0

/-- Lex mode `46`, the mode of the start state `1`, lexes no identifier: it cuts the statement
keyword `addon` from the identifier run `addonx` and leaves `x`. -/
theorem keyword_cut_from_identifier :
    tsLexModes 1 = 46 ∧
      tsLex 46 0 "addonx".toList = some (⟨.anonSymAddon, 0, 5⟩, "x".toList) ∧
      identifierRunLength "addonx".toList = 6 := by
  decide

end TreeSitterTxtx
